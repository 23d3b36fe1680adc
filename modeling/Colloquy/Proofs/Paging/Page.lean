import Mathlib.Logic.Basic
import Colloquy.Paging.Page
import Colloquy.Proofs.Outcome
import Colloquy.Proofs.Paging.Order

/-!
# Requests and the pages that are cut for them

A request that is accepted starts after a position with a cursor of its own
(`PageRequest.resolve_eq_ok`), and one that is refused is to blame for it
(`PageRequest.isClientError_of_resolve`). A page is cut without fail from records whose positions
have cursors (`Page.assemble_spec`): all of them if they fit, and otherwise as many as fit with the
cursor of the last one.
-/

namespace Colloquy

/-- The instants that have a count of their own, which are those that cursors can name. -/
def Instant.Counted (t : Instant) : Prop := ∃ n : Decimal.Int64, t = .ofNanos n

/-- The position that a listing from a cursor starts at, which is none without a cursor. -/
def Cursor.StartsAt (cursor : Option String) (start : Option SortKey) : Prop :=
  match cursor with
  | some cursor => Cursor.decode cursor = .ok start
  | none => start = none

/-- A cursor starts at one place only. -/
lemma Cursor.StartsAt.unique {cursor : Option String} {start start' : Option SortKey}
    (h : StartsAt cursor start) (h' : StartsAt cursor start') : start = start' := by
  cases cursor with
  | none => exact Eq.trans h (Eq.symm h')
  | some cursor => exact Except.ok.inj (Eq.trans (Eq.symm h) h')

/-- An accepted request starts where its cursor says, which is a position that a cursor can name. -/
lemma PageRequest.resolve_eq_ok {request : PageRequest} {limits : PagingLimits} {q : KeysetQuery}
    (h : request.resolve limits = .ok q) :
    (∀ key, q.after = some key → key.createdAt.Counted) ∧
      (match request.cursor with
        | some cursor => Cursor.decode cursor = .ok q.after
        | none => q.after = none) := by
  unfold resolve at h
  obtain ⟨size, hsize, h⟩ := bind_eq_ok_iff.mp h
  cases hc : request.cursor with
  | none =>
    rw [hc] at h
    obtain rfl := Except.ok.inj h
    exact ⟨fun key hkey => by simp at hkey, rfl⟩
  | some cursor =>
    rw [hc] at h
    obtain ⟨after, hafter, hq⟩ := bind_eq_ok_iff.mp h
    obtain rfl := Except.ok.inj hq
    refine ⟨?_, hafter⟩
    rintro key rfl
    exact (Cursor.decode_eq_ok_some_iff.mp hafter).1

/-- An accepted request goes in the direction that it asks for. -/
lemma PageRequest.order_of_resolve {request : PageRequest} {limits : PagingLimits}
    {q : KeysetQuery} (h : request.resolve limits = .ok q) :
    q.order = .ofTimeDesc (request.timeDesc.getD true) := by
  unfold resolve at h
  obtain ⟨size, -, h⟩ := bind_eq_ok_iff.mp h
  cases hcursor : request.cursor with
  | none =>
    rw [hcursor] at h
    obtain rfl := Except.ok.inj h
    rfl
  | some cursor =>
    rw [hcursor] at h
    obtain ⟨after, -, h⟩ := bind_eq_ok_iff.mp h
    obtain rfl := Except.ok.inj h
    rfl

/-- What is wrong with a cursor is an error of the caller. -/
lemma Cursor.isClientError_of_decode {text : String} {e : PagingError}
    (h : decode text = .error e) : e.isClientError = true := by
  unfold decode at h
  split at h
  next => exact absurd h (ne_error_of_ok rfl)
  next =>
    split at h
    next => exact absurd h (ne_error_of_ok rfl)
    next =>
      obtain rfl := Except.error.inj h
      rfl

/-- What is wrong with a request is an error of the caller. -/
lemma PageRequest.isClientError_of_resolve {request : PageRequest} {limits : PagingLimits}
    {e : PagingError} (h : request.resolve limits = .error e) : e.isClientError = true := by
  unfold resolve at h
  rcases bind_eq_error_iff.mp h with hsize | ⟨size, -, h⟩
  · unfold PageSize.new at hsize
    split at hsize
    next => exact absurd hsize (ne_error_of_ok rfl)
    next =>
      obtain rfl := Except.error.inj hsize
      rfl
  · cases hc : request.cursor with
    | none =>
      rw [hc] at h
      exact absurd h (ne_error_of_ok rfl)
    | some cursor =>
      rw [hc] at h
      rcases bind_eq_error_iff.mp h with hdecode | ⟨after, -, h⟩
      · exact Cursor.isClientError_of_decode hdecode
      · exact absurd h pure_ne_error

namespace Page

variable {α : Type} [Keyed α]

/-- The cursor of a counted position is read as that position. -/
lemma exists_cursor {key : SortKey} (h : key.createdAt.Counted) :
    ∃ cursor, key.cursor = .ok cursor ∧ Cursor.decode cursor = .ok (some key) := by
  obtain ⟨n, hn⟩ := h
  have hcursor := Cursor.encode_ofNanos n key.id
  rw [← hn] at hcursor
  exact ⟨_, hcursor, Cursor.decode_eq_ok_some_iff.mpr ⟨⟨n, hn⟩, hcursor⟩⟩

/-- What a page is that was cut from fetched records. -/
lemma assemble_spec {rows : List α} {size : PageSize} {page : Page α}
    (hcounted : ∀ a ∈ rows, (sortKey a).createdAt.Counted) (h : assemble rows size = .ok page) :
    (rows.length ≤ size.toNat ∧ page = ⟨rows, false, none⟩) ∨
      (size.toNat < rows.length ∧ page.items = rows.take size.toNat ∧ page.hasMore = true ∧
        ∃ last cursor, page.items.getLast? = some last ∧ page.nextCursor = some cursor ∧
          Cursor.decode cursor = .ok (some (sortKey last))) := by
  unfold assemble at h
  split at h
  next hfits =>
    obtain rfl := Except.ok.inj h
    exact .inl ⟨hfits, rfl⟩
  next hfits =>
    have hlt : size.toNat < rows.length := Nat.lt_of_not_le hfits
    dsimp only at h
    split at h
    next last hlast =>
      obtain ⟨cursor, hcursor, hdecode⟩ :=
        exists_cursor (hcounted last (List.mem_of_mem_take (List.mem_of_getLast? hlast)))
      rw [hcursor] at h
      obtain rfl := Except.ok.inj h
      exact .inr ⟨hlt, rfl, rfl, last, cursor, hlast, rfl, hdecode⟩
    next hnone =>
      -- a page holds at least one record, so a last one is there
      have hpos := size.pos
      have hlen := congrArg List.length (List.getLast?_eq_none_iff.mp hnone)
      rw [List.length_take, List.length_nil] at hlen
      omega

/-- A page holds records that were fetched. -/
lemma mem_of_mem_items {rows : List α} {size : PageSize} {page : Page α}
    (hcounted : ∀ a ∈ rows, (sortKey a).createdAt.Counted) (h : assemble rows size = .ok page)
    {a : α} (ha : a ∈ page.items) : a ∈ rows := by
  rcases assemble_spec hcounted h with ⟨-, rfl⟩ | ⟨-, hitems, -⟩
  · exact ha
  · rw [hitems] at ha
    exact List.mem_of_mem_take ha

/-- A page can be cut from records whose positions have cursors. -/
lemma exists_assemble {rows : List α} (size : PageSize)
    (hcounted : ∀ a ∈ rows, (sortKey a).createdAt.Counted) :
    ∃ page, assemble rows size = .ok page := by
  unfold assemble
  split
  next => exact ⟨_, rfl⟩
  next =>
    dsimp only
    split
    next last hlast =>
      have hmem := List.mem_of_mem_take (List.mem_of_getLast? hlast)
      obtain ⟨cursor, hcursor, -⟩ := exists_cursor (hcounted last hmem)
      exact ⟨⟨rows.take size.toNat, true, some cursor⟩, by simp [hcursor]⟩
    next => exact ⟨_, rfl⟩

end Page

end Colloquy
