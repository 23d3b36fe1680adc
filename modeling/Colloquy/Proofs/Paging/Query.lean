import Colloquy.Proofs.Paging.Page

/-!
# Queries and the pages cut for them

A query puts the positions that it admits into a strict order (`pairwise_oriented_sorted`), and its
page is cut from the beginning of that order: it ends the listing, or it names the position that it
ends at (`Page.CutFrom`).
-/

namespace Colloquy

open Std

namespace SortOrder

/-- Ascending, what is less comes first. -/
lemma precedes_iff_of_ascending {a b : SortKey} : ascending.precedes a b ↔ compare a b = .lt := by
  rw [precedes, isAfter, beq_iff_eq, OrientedCmp.gt_iff_lt]

/-- Descending, what is greater comes first. -/
lemma precedes_iff_of_descending {a b : SortKey} : descending.precedes a b ↔ compare b a = .lt := by
  rw [precedes, isAfter, beq_iff_eq]

end SortOrder

namespace KeysetQuery

/-- A query admits the positions after the one that it starts at. -/
lemma admits_iff {q : KeysetQuery} {key : SortKey} :
    q.admits key ↔ q.order.Ahead q.after key := by
  unfold admits SortOrder.Ahead
  cases q.after with
  | none => simp
  | some position => simp [SortOrder.precedes]

/-- Turning a list into the direction of a query keeps what is in it. -/
lemma mem_oriented {α : Type} {q : KeysetQuery} {l : List α} {a : α} :
    a ∈ q.oriented l ↔ a ∈ l := by
  unfold oriented
  split <;> simp

/-- Turning a list into the direction of a query goes along with changes of its entries. -/
lemma map_oriented {α β : Type} (q : KeysetQuery) (f : α → β) (l : List α) :
    (q.oriented l).map f = q.oriented (l.map f) := by
  unfold oriented
  split
  · exact List.map_reverse
  · rfl

/-- Sorting different positions puts them into strictly ascending order. -/
lemma pairwise_sorted {keys : List SortKey} (h : keys.Nodup) :
    (sorted keys).Pairwise fun a b => compare a b = .lt := by
  have hle : (sorted keys).Pairwise fun a b => (compare a b).isLE := by
    refine List.pairwise_mergeSort (fun a b c hab hbc => ?_) (fun a b => ?_) keys
    · exact TransCmp.isLE_trans hab hbc
    · by_cases hab : (compare a b).isLE
      · exact Bool.or_eq_true_iff.mpr (.inl hab)
      · exact Bool.or_eq_true_iff.mpr
          (.inr (Ordering.isLE_of_eq_lt (OrientedCmp.lt_of_not_isLE hab)))
  have hne : (sorted keys).Pairwise fun a b => a ≠ b :=
    (List.mergeSort_perm keys _).nodup_iff.mpr h
  refine (hle.and hne).imp fun ⟨hab, hne⟩ => ?_
  rcases Ordering.isLE_iff_eq_lt_or_eq_eq.mp hab with hlt | heq
  · exact hlt
  · exact absurd (LawfulEqOrd.eq_of_compare heq) hne

/-- A query puts different positions into the order of its direction. -/
lemma pairwise_oriented_sorted (q : KeysetQuery) {keys : List SortKey} (h : keys.Nodup) :
    (q.oriented (sorted keys)).Pairwise fun a b => q.order.precedes a b := by
  have hsorted := pairwise_sorted h
  unfold oriented
  cases q.order with
  | descending =>
    rw [List.pairwise_reverse]
    exact hsorted.imp SortOrder.precedes_iff_of_descending.mpr
  | ascending => exact hsorted.imp SortOrder.precedes_iff_of_ascending.mpr

end KeysetQuery

namespace Page

variable {α : Type} [Keyed α]

/-- What a page is of positions in order: it begins with them and goes on until they end, or it
names the last position that it holds. -/
structure CutFrom (keys : List SortKey) (page : Page α) : Prop where
  begins : ∃ rest, keys = page.items.map sortKey ++ rest ∧ (page.hasMore = false → rest = [])
  next : page.hasMore = true → ∃ last cursor, page.items.getLast? = some last ∧
    page.nextCursor = some cursor ∧ Cursor.decode cursor = .ok (some (sortKey last))

/-- The page that is assembled from what was fetched is cut from the positions that there are. -/
lemma cutFrom_of_assemble {keys : List SortKey} {records : List α} {size : PageSize}
    {page : Page α} (hrecords : records.map sortKey = keys.take (size.toNat + 1))
    (hcounted : ∀ a ∈ records, (sortKey a).createdAt.Counted)
    (h : assemble records size = .ok page) : CutFrom keys page := by
  have hlength := congrArg List.length hrecords
  rw [List.length_map, List.length_take] at hlength
  rcases assemble_spec hcounted h with ⟨hfits, rfl⟩ | ⟨hlong, hitems, hmore, hnext⟩
  · refine ⟨⟨[], ?_, fun _ => rfl⟩, fun hmore => by simp at hmore⟩
    rw [List.append_nil, hrecords, List.take_of_length_le (by omega)]
  · refine ⟨⟨keys.drop size.toNat, ?_, fun hlast => by simp [hmore] at hlast⟩, fun _ => hnext⟩
    rw [hitems, List.map_take, hrecords, List.take_take, Nat.min_eq_left (Nat.le_succ _),
      List.take_append_drop]

end Page

end Colloquy
