import Mathlib.Logic.Basic
import Colloquy.Instant

/-!
# Instants and their counts of nanoseconds

Instants are ordered by seconds and then by nanoseconds, and on the instants that have a count of
their own, `Instant.ofNanos n`, this is the order of the counts. A leap second has a count too
(`Instant.nanos?`) but is not the instant of that count, which is what `Instant.recounted` makes of
it; an instant comes back from its count exactly if it is not within a leap second
(`recounted_eq_self_iff`).
-/

namespace Colloquy.Instant

open Std

instance : TransOrd Instant :=
  inferInstanceAs (TransCmp (compareLex (compareOn Instant.seconds) (compareOn Instant.nanos)))

instance : LawfulEqOrd Instant where
  eq_of_compare {a b} h := by
    obtain ⟨hs, hn⟩ := Ordering.then_eq_eq.mp h
    have hs := LawfulEqOrd.eq_of_compare hs
    have hn := LawfulEqOrd.eq_of_compare hn
    cases a
    cases b
    congr

/-- The instant of a count has that count. -/
@[simp] lemma toNanos_ofNanos (n : Decimal.Int64) : (ofNanos n).toNanos = n.1 := by
  have := Int.emod_nonneg n.1 (show (nanosPerSecond : Int) ≠ 0 by decide)
  simp only [toNanos, ofNanos, Int.toNat_of_nonneg this]
  rw [Int.mul_comm, Int.mul_ediv_add_emod]

/-- The instant of a count has this count. -/
@[simp] lemma nanos?_ofNanos (n : Decimal.Int64) : (ofNanos n).nanos? = some n.1 := by
  rw [nanos?, toNanos_ofNanos, if_pos n.2]

/-- A count of 64 bits has an instant. -/
@[simp] lemma ofNanos?_coe (n : Decimal.Int64) : ofNanos? n.1 = some (ofNanos n) := by
  rw [ofNanos?, dif_pos n.2]

/-- Instants of counts are ordered like the counts, before 1970 as well. -/
lemma compare_ofNanos (m n : Decimal.Int64) :
    compare (ofNanos m) (ofNanos n) = compare m.1 n.1 := by
  change (compare (m.1 / nanosPerSecond) (n.1 / nanosPerSecond)).then
    (compare (m.1 % nanosPerSecond).toNat (n.1 % nanosPerSecond).toNat) = _
  rw [show (nanosPerSecond : Int) = 1000000000 from rfl]
  rcases Int.lt_trichotomy (m.1 / 1000000000) (n.1 / 1000000000) with h | h | h
  · have hmn : m.1 < n.1 := by omega
    rw [Int.compare_eq_lt.mpr h, Int.compare_eq_lt.mpr hmn, Ordering.lt_then]
  · rw [Int.compare_eq_eq.mpr h, Ordering.eq_then]
    rcases Int.lt_trichotomy (m.1 % 1000000000) (n.1 % 1000000000) with h' | h' | h'
    · rw [Nat.compare_eq_lt.mpr (by omega), Int.compare_eq_lt.mpr (by omega)]
    · rw [Nat.compare_eq_eq.mpr (by omega), Int.compare_eq_eq.mpr (by omega)]
    · rw [Nat.compare_eq_gt.mpr (by omega), Int.compare_eq_gt.mpr (by omega)]
  · have hmn : n.1 < m.1 := by omega
    rw [Int.compare_eq_gt.mpr h, Int.compare_eq_gt.mpr hmn, Ordering.gt_then]

/-! ### Instants that come back from their counts -/

/-- An instant has a count exactly if its nanoseconds since 1970 are this signed 64-bit integer. -/
lemma nanos?_eq_some_iff {t : Instant} {n : Int} :
    t.nanos? = some n ↔ Decimal.InInt64 n ∧ t.toNanos = n := by
  unfold nanos?
  split
  next h =>
    rw [Option.some.injEq]
    constructor
    · rintro rfl
      exact ⟨h, rfl⟩
    · exact And.right
  next h =>
    refine iff_of_false (by simp) ?_
    rintro ⟨hn, rfl⟩
    exact h hn

/-- An instant with a count is recounted to the instant of the count. -/
lemma recounted_of_nanos? {t : Instant} {n : Decimal.Int64} (h : t.nanos? = some n.1) :
    t.recounted = ofNanos n := by
  rw [recounted, h, Option.bind_some, ofNanos?_coe, Option.getD_some]

/-- The instant of a count is the instant that has this count and is not within a leap second. -/
lemma ofNanos_eq_iff {t : Instant} {n : Decimal.Int64} :
    ofNanos n = t ↔ t.toNanos = n.1 ∧ t.nanos < nanosPerSecond := by
  constructor
  · rintro rfl
    refine ⟨toNanos_ofNanos n, ?_⟩
    change (n.1 % nanosPerSecond).toNat < nanosPerSecond
    rw [nanosPerSecond]
    omega
  · rintro ⟨hcount, hleap⟩
    obtain ⟨seconds, nanos, hnanos, hrange⟩ := t
    obtain ⟨n, hn⟩ := n
    simp only [toNanos, nanosPerSecond] at hcount hleap
    simp only [ofNanos, nanosPerSecond, Instant.mk.injEq]
    omega

/-- An instant with a count comes back from it exactly if it is not within a leap second. -/
lemma recounted_eq_self_iff {t : Instant} (h : t.nanos?.isSome) :
    t.recounted = t ↔ t.nanos < nanosPerSecond := by
  obtain ⟨n, hn⟩ := Option.isSome_iff_exists.mp h
  obtain ⟨hrange, hcount⟩ := nanos?_eq_some_iff.mp hn
  rw [recounted_of_nanos? (n := ⟨n, hrange⟩) hn, ofNanos_eq_iff]
  exact and_iff_right hcount

end Colloquy.Instant
