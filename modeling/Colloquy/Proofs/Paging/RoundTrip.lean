import Colloquy.Proofs.Paging.Page

/-!
# Positions that come back from their cursors

A cursor carries the count of an instant, so the cursor of a position is read as the position at the
instant that this count stands for (`decode_cursor`). This is the position itself, unless its time
lies within a leap second: then it is a position in the next second, and the two have one cursor
(`resumes_outside_leap_seconds`, `leap_second_not_resumed`).
-/

namespace Colloquy

namespace SortKey

/-- A position has the cursor of the position at the instant of its count. -/
lemma cursor_eq_ok_iff {key : SortKey} {cursor : String} :
    key.cursor = .ok cursor ↔ ∃ n : Decimal.Int64, key.createdAt.nanos? = some n.1 ∧
      (⟨.ofNanos n, key.id⟩ : SortKey).cursor = .ok cursor := by
  unfold SortKey.cursor Cursor.encode
  constructor
  · intro h
    split at h
    next n hn =>
      obtain ⟨hrange, -⟩ := Instant.nanos?_eq_some_iff.mp hn
      refine ⟨⟨n, hrange⟩, hn, ?_⟩
      rw [Instant.nanos?_ofNanos]
      exact h
    next => simp at h
  · rintro ⟨n, hn, h⟩
    rw [Instant.nanos?_ofNanos] at h
    rw [hn]
    exact h

/-- The cursor of a position is read as the position at the instant of its count. -/
lemma decode_cursor {key : SortKey} {cursor : String} (h : key.cursor = .ok cursor) :
    Cursor.decode cursor = .ok (some ⟨key.createdAt.recounted, key.id⟩) := by
  obtain ⟨n, hn, hcursor⟩ := cursor_eq_ok_iff.mp h
  rw [Instant.recounted_of_nanos? hn]
  exact Cursor.decode_eq_ok_some_iff.mpr ⟨⟨n, rfl⟩, hcursor⟩

/-- A position has a cursor exactly if its time has a count. -/
lemma exists_cursor_iff {key : SortKey} :
    (∃ cursor, key.cursor = .ok cursor) ↔ key.createdAt.nanos?.isSome := by
  constructor
  · rintro ⟨cursor, h⟩
    obtain ⟨n, hn, -⟩ := cursor_eq_ok_iff.mp h
    rw [hn]
    rfl
  · intro h
    obtain ⟨n, hn⟩ := Option.isSome_iff_exists.mp h
    obtain ⟨hrange, -⟩ := Instant.nanos?_eq_some_iff.mp hn
    exact ⟨_, cursor_eq_ok_iff.mpr ⟨⟨n, hrange⟩, hn, Cursor.encode_ofNanos _ _⟩⟩

/-- The cursor of a position is read as that position exactly if its time is not within a leap
second. -/
lemma decode_cursor_eq_iff {key : SortKey} {cursor : String} (h : key.cursor = .ok cursor) :
    Cursor.decode cursor = .ok (some key) ↔ key.createdAt.nanos < nanosPerSecond := by
  rw [decode_cursor h, ← Instant.recounted_eq_self_iff (exists_cursor_iff.mp ⟨cursor, h⟩)]
  obtain ⟨createdAt, id⟩ := key
  simp

/-- Two positions have one cursor exactly if they have one id and one count. -/
lemma cursor_eq_iff {a b : SortKey} {cursor : String} (ha : a.cursor = .ok cursor) :
    b.cursor = .ok cursor ↔ b.id = a.id ∧ b.createdAt.toNanos = a.createdAt.toNanos := by
  obtain ⟨n, hn, hcursor⟩ := cursor_eq_ok_iff.mp ha
  obtain ⟨hrange, hcount⟩ := Instant.nanos?_eq_some_iff.mp hn
  constructor
  · intro hb
    obtain ⟨m, hm, -⟩ := cursor_eq_ok_iff.mp hb
    have hread := (decode_cursor ha).symm.trans (decode_cursor hb)
    rw [Instant.recounted_of_nanos? hn, Instant.recounted_of_nanos? hm] at hread
    obtain ⟨htime, hid⟩ := SortKey.mk.inj (Option.some.inj (Except.ok.inj hread))
    refine ⟨hid.symm, ?_⟩
    rw [(Instant.nanos?_eq_some_iff.mp hm).2, hcount]
    exact (Instant.toNanos_ofNanos m).symm.trans (htime ▸ Instant.toNanos_ofNanos n)
  · rintro ⟨hid, hsame⟩
    refine cursor_eq_ok_iff.mpr ⟨n, Instant.nanos?_eq_some_iff.mpr ⟨hrange, hsame.trans hcount⟩, ?_⟩
    rw [hid]
    exact hcursor

/-- Positions outside leap seconds have different cursors if they are different. -/
lemma eq_of_cursor_eq {a b : SortKey} {cursor : String} (ha : a.cursor = .ok cursor)
    (hb : b.cursor = .ok cursor) (hleap : a.createdAt.nanos < nanosPerSecond)
    (hleap' : b.createdAt.nanos < nanosPerSecond) : a = b := by
  have hread := (decode_cursor_eq_iff ha).mpr hleap
  rw [(decode_cursor_eq_iff hb).mpr hleap', Except.ok.injEq, Option.some.injEq] at hread
  exact hread.symm

end SortKey

/-- The cursor of a page is the cursor of the last record on it. -/
lemma Page.cursor_of_assemble {α : Type} [Keyed α] {rows : List α} {size : PageSize}
    {page : Page α} {cursor : String} (h : assemble rows size = .ok page)
    (hcursor : page.nextCursor = some cursor) :
    ∃ last, page.items.getLast? = some last ∧ (sortKey last).cursor = .ok cursor := by
  unfold assemble at h
  split at h
  next =>
    obtain rfl := Except.ok.inj h
    simp at hcursor
  next =>
    dsimp only at h
    split at h
    next last hlast =>
      obtain ⟨written, hwritten, hpage⟩ := bind_eq_ok_iff.mp h
      obtain rfl := pure_eq_ok_iff.mp hpage
      obtain rfl := Option.some.inj hcursor
      exact ⟨last, hlast, hwritten⟩
    next =>
      obtain rfl := Except.ok.inj h
      simp at hcursor

namespace Cursor

end Cursor

end Colloquy
