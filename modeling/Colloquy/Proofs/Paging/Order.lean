import Mathlib.Logic.Basic
import Colloquy.Paging.Page
import Colloquy.Proofs.Paging.Cursor

/-!
# The order of positions

Positions are totally ordered, by time and then by id. `SortOrder.precedes` is this order in the
direction of a listing; it is strict and total as well, and sorting by it is what
`KeysetQuery.oriented` makes of an ascending list.
-/

namespace Colloquy

open Std

namespace Uuid

instance : TransOrd Uuid := inferInstanceAs (TransCmp (compareOn Uuid.toNat))

instance : LawfulEqOrd Uuid where
  eq_of_compare {a b} h := by
    have := LawfulEqOrd.eq_of_compare (show compare a.toNat b.toNat = .eq from h)
    cases a
    cases b
    congr

/-- Different identifiers have different texts. -/
lemma text_injective {a b : Uuid} (h : a.text = b.text) : a = b := by
  have heq : compare a b = .eq := by rw [← compare_text, h, ReflOrd.compare_self]
  exact LawfulEqOrd.eq_of_compare heq

end Uuid

namespace SortKey

instance : TransOrd SortKey :=
  inferInstanceAs (TransCmp (compareLex (compareOn SortKey.createdAt) (compareOn SortKey.id)))

instance : LawfulEqOrd SortKey where
  eq_of_compare {a b} h := by
    obtain ⟨ht, hid⟩ := Ordering.then_eq_eq.mp h
    have ht := LawfulEqOrd.eq_of_compare ht
    have hid := LawfulEqOrd.eq_of_compare hid
    cases a
    cases b
    congr

end SortKey

namespace SortOrder

/-- Whether a position comes strictly before another in the direction of a listing. -/
def precedes (order : SortOrder) (a b : SortKey) : Bool :=
  order.isAfter (compare b a)

/-- What comes before a position comes before all that it precedes. -/
lemma precedes_trans {order : SortOrder} {a b c : SortKey} (hab : order.precedes a b)
    (hbc : order.precedes b c) : order.precedes a c := by
  cases order with
  | descending =>
    simp only [precedes, isAfter, beq_iff_eq] at *
    exact TransCmp.lt_trans hbc hab
  | ascending =>
    simp only [precedes, isAfter, beq_iff_eq] at *
    exact TransCmp.gt_trans hbc hab

/-- Whether a position comes after the one that a listing starts at, if it starts at one. -/
def Ahead (order : SortOrder) (start : Option SortKey) (key : SortKey) : Prop :=
  ∀ position, start = some position → order.precedes position key

/-- What comes after a position that is ahead is ahead. -/
lemma Ahead.trans {order : SortOrder} {start : Option SortKey} {a b : SortKey}
    (h : order.Ahead start a) (hab : order.precedes a b) : order.Ahead start b :=
  fun position hposition => precedes_trans (h position hposition) hab

/-- A position does not come before itself. -/
lemma precedes_irrefl (order : SortOrder) (a : SortKey) : ¬order.precedes a a := by
  cases order <;> simp [precedes, isAfter, ReflOrd.compare_self]

end SortOrder

end Colloquy
