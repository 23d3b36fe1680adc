import Colloquy.Paging.Drain
import Colloquy.Proofs.Paging.Query

/-!
# Drains of records in memory

The pages that are got by following cursors through records in memory split the records, put into
the order of the listing, one after another (`Page.Splits`). What carries this is that the query of
a cursor that names the last record passed selects from the records left over
(`KeysetQuery.select_eq_take`). So following cursors comes to an end, and what it returns does not
depend on the sizes of the pages (`Page.walk_splits`).
-/

namespace Colloquy

open Std
open Cursor (StartsAt)

/-! ### Records in order -/

namespace KeysetQuery

variable {α : Type} [Keyed α] {q : KeysetQuery} {records passed rest ordered : List α}

omit [Keyed α] in
/-- Turning a list into the direction of a query only rearranges it. -/
lemma oriented_perm (q : KeysetQuery) (l : List α) : (q.oriented l).Perm l := by
  unfold oriented
  split
  · exact List.reverse_perm l
  · exact List.Perm.refl l

/-- Sorting records sorts their positions. -/
lemma map_sorted (records : List α) : (sorted records).map sortKey = sorted (records.map sortKey) :=
  List.map_mergeSort fun _ _ _ _ => rfl

/-- Sorting puts different records into strictly ascending order. -/
lemma pairwise_sorted_records (h : (records.map sortKey).Nodup) :
    (sorted records).Pairwise fun a b => compare (sortKey a) (sortKey b) = .lt := by
  rw [← List.pairwise_map (R := fun a b => compare a b = .lt), map_sorted]
  exact pairwise_sorted h

/-- There is one way to put records into the order of a query. -/
lemma oriented_sorted_eq (hperm : ordered.Perm records)
    (hordered : ordered.Pairwise fun a b => q.order.precedes (sortKey a) (sortKey b)) :
    q.oriented (sorted records) = ordered := by
  have hnodup : (records.map sortKey).Nodup := by
    rw [← (hperm.map sortKey).nodup_iff]
    refine List.pairwise_map.mpr (hordered.imp fun {a b} hab hsame => ?_)
    rw [hsame] at hab
    exact q.order.precedes_irrefl _ hab
  have hpairwise : (q.oriented (sorted records)).Pairwise fun a b =>
      q.order.precedes (sortKey a) (sortKey b) := by
    rw [← List.pairwise_map (R := fun a b => q.order.precedes a b), map_oriented, map_sorted]
    exact q.pairwise_oriented_sorted hnodup
  refine List.Perm.eq_of_pairwise (fun a b _ _ hab hba => ?_) hpairwise hordered ?_
  · exact absurd (SortOrder.precedes_trans hab hba) (q.order.precedes_irrefl _)
  · exact (q.oriented_perm _).trans ((List.mergeSort_perm _ _).trans hperm.symm)

/-- A query that starts after the last record passed admits the records that are left. -/
lemma filter_admits_append
    (hordered : (passed ++ rest).Pairwise fun a b => q.order.precedes (sortKey a) (sortKey b))
    (hafter : q.after = passed.getLast?.map sortKey) :
    (passed ++ rest).filter (fun a => q.admits (sortKey a)) = rest := by
  obtain ⟨hpassed, -, hrest⟩ := List.pairwise_append.mp hordered
  have hnot : ∀ a ∈ passed, ¬q.admits (sortKey a) := by
    intro a ha hadmits
    cases hlast : passed.getLast? with
    | none => simp [List.getLast?_eq_none_iff.mp hlast] at ha
    | some last =>
      rw [hlast, Option.map_some] at hafter
      have hbeyond := admits_iff.mp hadmits _ hafter
      obtain ⟨before, rfl⟩ := List.getLast?_eq_some_iff.mp hlast
      rcases List.mem_append.mp ha with ha | ha
      · have hbefore := (List.pairwise_append.mp hpassed).2.2 a ha last (List.mem_singleton_self _)
        exact q.order.precedes_irrefl _ (SortOrder.precedes_trans hbeyond hbefore)
      · rw [List.mem_singleton.mp ha] at hbeyond
        exact q.order.precedes_irrefl _ hbeyond
  have hall : ∀ a ∈ rest, q.admits (sortKey a) := by
    intro a ha
    rw [admits_iff]
    intro position hposition
    rw [hafter, Option.map_eq_some_iff] at hposition
    obtain ⟨last, hlast, rfl⟩ := hposition
    exact hrest last (List.mem_of_getLast? hlast) a ha
  rw [List.filter_append, List.filter_eq_nil_iff.mpr hnot, List.filter_eq_self.mpr hall,
    List.nil_append]

/-- What a query selects that starts after the last record passed is what comes next. -/
lemma select_eq_take (hperm : (passed ++ rest).Perm records)
    (hordered : (passed ++ rest).Pairwise fun a b => q.order.precedes (sortKey a) (sortKey b))
    (hafter : q.after = passed.getLast?.map sortKey) :
    q.select records = rest.take q.fetchLimit := by
  have hrest : rest.Perm (records.filter fun a => q.admits (sortKey a)) := by
    rw [← filter_admits_append hordered hafter]
    exact hperm.filter _
  rw [select, oriented_sorted_eq hrest (List.pairwise_append.mp hordered).2.1]

end KeysetQuery

/-! ### Pages that split records -/

namespace Page

variable {α ε : Type}

/-- Turning a list around only rearranges it. -/
lemma directed_perm (descending : Bool) (l : List α) :
    (if descending then l.reverse else l).Perm l := by
  split
  · exact List.reverse_perm l
  · exact List.Perm.refl l

/-- What the pages of a walk are of its records in order, if request `i` asks for `size i` records
and the first request is number `first`. -/
structure Splits [Keyed α] (size : Nat → Nat) (first : Nat) (records : List α)
    (pages : List (Page α)) : Prop where
  items : pages.flatMap Page.items = records
  /-- Every page but the last has more, and is full. -/
  hasMore : ∀ k page, pages[k]? = some page → (page.hasMore = true ↔ k + 1 < pages.length)
  full : ∀ k page, pages[k]? = some page → page.hasMore = true →
    page.items.length = size (first + k)
  fits : ∀ k page, pages[k]? = some page → page.items.length ≤ size (first + k)
  /-- A page has a cursor exactly if it has more, and the cursor names its last record. -/
  next_isSome : ∀ page ∈ pages, page.nextCursor.isSome = page.hasMore
  next : ∀ page ∈ pages, ∀ cursor, page.nextCursor = some cursor →
    ∃ last, page.items.getLast? = some last ∧ Cursor.decode cursor = .ok (some (sortKey last))
  /-- The last page is empty only if there are no records. -/
  last : ∃ page, pages.getLast? = some page ∧ (page.items = [] ↔ records = [])
  length_le : pages.length ≤ records.length + 1

namespace Splits

variable [Keyed α] {size : Nat → Nat} {first : Nat} {records : List α} {page : Page α}
  {pages later : List (Page α)}

/-- The pages of records in either order return each of them as often as it is there. -/
lemma items_perm {descending : Bool} {ascending : List α}
    (h : Splits size first (if descending then ascending.reverse else ascending) pages) :
    (pages.flatMap Page.items).Perm ascending := by
  rw [h.items]
  exact directed_perm descending ascending

/-- Records that fit are split into one page. -/
lemma single (hfits : records.length ≤ size first) :
    Splits size first records [⟨records, false, none⟩] where
  items := by simp
  hasMore k page hpage := by
    cases k with
    | zero => simp at hpage; simp [← hpage]
    | succ k => simp at hpage
  full k page hpage hmore := by
    cases k with
    | zero => simp at hpage; simp [← hpage] at hmore
    | succ k => simp at hpage
  fits k page hpage := by
    cases k with
    | zero => simp at hpage; simpa [← hpage] using hfits
    | succ k => simp at hpage
  next_isSome := by simp
  next := by simp
  last := ⟨_, rfl, Iff.rfl⟩
  length_le := by simp

/-- A full page that names its last record, and the pages that split what comes after it. -/
lemma cons {rest : List α} {last : α} {next : String} (hmore : page.hasMore = true)
    (hfull : page.items.length = size first) (hlast : page.items.getLast? = some last)
    (hnext : page.nextCursor = some next) (hdecode : Cursor.decode next = .ok (some (sortKey last)))
    (hrest : rest ≠ []) (h : Splits size (first + 1) rest later) :
    Splits size first (page.items ++ rest) (page :: later) where
  items := by rw [List.flatMap_cons, h.items]
  hasMore k page' hpage := by
    cases k with
    | zero =>
      obtain rfl : page = page' := by simpa using hpage
      obtain ⟨final, hfinal, -⟩ := h.last
      have hpos := List.length_pos_of_mem (List.mem_of_getLast? hfinal)
      rw [List.length_cons]
      exact iff_of_true hmore (by omega)
    | succ k =>
      rw [List.getElem?_cons_succ] at hpage
      rw [h.hasMore k page' hpage, List.length_cons, Nat.add_lt_add_iff_right]
  full k page' hpage hmore' := by
    cases k with
    | zero =>
      obtain rfl : page = page' := by simpa using hpage
      exact hfull
    | succ k =>
      rw [List.getElem?_cons_succ] at hpage
      rw [h.full k page' hpage hmore', Nat.add_right_comm, Nat.add_assoc]
  fits k page' hpage := by
    cases k with
    | zero =>
      obtain rfl : page = page' := by simpa using hpage
      exact hfull.le
    | succ k =>
      rw [List.getElem?_cons_succ] at hpage
      have := h.fits k page' hpage
      rwa [Nat.add_right_comm, Nat.add_assoc] at this
  next_isSome page' hpage := by
    rcases List.mem_cons.mp hpage with rfl | hlater
    · rw [hnext, hmore, Option.isSome_some]
    · exact h.next_isSome page' hlater
  next page' hpage cursor hcursor := by
    rcases List.mem_cons.mp hpage with rfl | hlater
    · obtain rfl := Option.some.inj (hnext.symm.trans hcursor)
      exact ⟨last, hlast, hdecode⟩
    · exact h.next page' hlater cursor hcursor
  last := by
    obtain ⟨final, hfinal, hempty⟩ := h.last
    refine ⟨final, ?_, ?_⟩
    · rw [List.getLast?_cons, hfinal, Option.getD_some]
    · rw [hempty]
      exact iff_of_false hrest (List.append_ne_nil_of_right_ne_nil _ hrest)
  length_le := by
    have hitems := List.length_pos_of_mem (List.mem_of_getLast? hlast)
    have hlater := h.length_le
    rw [List.length_cons, List.length_append]
    omega

end Splits

namespace Walk

variable {fetch fetch' : Nat → Option String → Except ε (Page α)} {i : Nat}
  {cursor : Option String} {pages pages' : List (Page α)}

/-- There is one way to follow cursors. -/
lemma unique (h : Walk fetch i cursor pages) (h' : Walk fetch i cursor pages') :
    pages' = pages := by
  induction h generalizing pages' with
  | last hpage hlast =>
    cases h' with
    | last hpage' hlast' =>
      obtain rfl := Except.ok.inj (hpage.symm.trans hpage')
      rfl
    | next hpage' hnext' hlater' =>
      obtain rfl := Except.ok.inj (hpage.symm.trans hpage')
      simp [hlast] at hnext'
  | next hpage hnext _ ih =>
    cases h' with
    | last hpage' hlast' =>
      obtain rfl := Except.ok.inj (hpage.symm.trans hpage')
      simp [hnext] at hlast'
    | next hpage' hnext' hlater' =>
      obtain rfl := Except.ok.inj (hpage.symm.trans hpage')
      obtain rfl := Option.some.inj (hnext.symm.trans hnext')
      rw [ih hlater']

/-- Cursors are followed alike where every page is the same. -/
lemma mono {ε' : Type} {fetch' : Nat → Option String → Except ε' (Page α)}
    (hfetch : ∀ i cursor page, fetch i cursor = .ok page → fetch' i cursor = .ok page)
    (h : Walk fetch i cursor pages) : Walk fetch' i cursor pages := by
  induction h with
  | last hpage hlast => exact .last (hfetch _ _ _ hpage) hlast
  | next hpage hnext _ ih => exact .next (hfetch _ _ _ hpage) hnext ih

/-- A drain gets the pages of a walk, if it may get as many. -/
lemma drain_eq_ok {fetch : Option String → Except ε (Page α)} {most : Nat}
    (h : Walk (fun _ => fetch) i cursor pages) (hmost : pages.length ≤ most) :
    drain fetch most cursor = .ok pages := by
  induction h generalizing most with
  | last hpage hlast =>
    obtain ⟨most, rfl⟩ := Nat.exists_eq_add_one_of_ne_zero (Nat.ne_of_gt hmost)
    simp only [drain, hpage, hlast]
  | next hpage hnext _ ih =>
    rw [List.length_cons] at hmost
    obtain ⟨most, rfl⟩ := Nat.exists_eq_add_one_of_ne_zero (Nat.ne_of_gt (Nat.zero_lt_of_lt hmost))
    simp only [drain, hpage, hnext, ih (Nat.le_of_lt_succ hmost)]

end Walk

end Page

/-! ### Walks through records in memory -/

section Request

variable {limits : PagingLimits} {limit : Nat → Option Nat} {timeDesc : Option Bool}

/-- The page sizes that a request may ask for. -/
def PagingLimits.Accepts (limits : PagingLimits) (limit : Option Nat) : Prop :=
  0 < limit.getD limits.defaultLimit ∧ limit.getD limits.defaultLimit ≤ limits.maxLimit

/-- A request is accepted if its size is, and its cursor can be read. -/
lemma PageRequest.resolve_eq_ok_of_startsAt {request : PageRequest} {start : Option SortKey}
    (hlimit : limits.Accepts request.limit) (hstart : StartsAt request.cursor start) :
    request.resolve limits =
      .ok ⟨start, .ofTimeDesc (request.timeDesc.getD true), ⟨_, hlimit.1⟩⟩ := by
  have hsize : PageSize.new (request.limit.getD limits.defaultLimit) limits.maxLimit =
      .ok ⟨_, hlimit.1⟩ := dif_pos hlimit
  unfold resolve
  rw [hsize, ok_bind_eq]
  cases hcursor : request.cursor with
  | none =>
    rw [hcursor] at hstart
    obtain rfl : start = none := hstart
    rfl
  | some cursor =>
    rw [hcursor] at hstart
    dsimp only
    rw [show Cursor.decode cursor = .ok start from hstart]
    rfl

namespace Page

variable {α : Type} [Keyed α] {records passed rest : List α}

/-- The page after the records passed is cut from the records that are left. -/
lemma pageOf_eq_assemble (request : PageRequest) (hlimit : limits.Accepts request.limit)
    (hperm : (passed ++ rest).Perm records)
    (hordered : (passed ++ rest).Pairwise fun a b =>
      (SortOrder.ofTimeDesc (request.timeDesc.getD true)).precedes (sortKey a) (sortKey b))
    (hstart : StartsAt request.cursor (passed.getLast?.map sortKey)) :
    request.pageOf limits records =
      assemble (rest.take (request.limit.getD limits.defaultLimit + 1)) ⟨_, hlimit.1⟩ := by
  rw [PageRequest.pageOf, PageRequest.resolve_eq_ok_of_startsAt hlimit hstart, ok_bind_eq,
    KeysetQuery.assemble, KeysetQuery.select_eq_take hperm hordered rfl]
  rfl

/-- The page that is cut from what is left holds all of it, or it is full, names the last record
that it holds and leaves some. -/
lemma exists_assemble_take (size : PageSize)
    (hcounted : ∀ a ∈ rest, (sortKey a).createdAt.Counted) :
    ∃ page, assemble (rest.take (size.toNat + 1)) size = .ok page ∧
      (rest.length ≤ size.toNat ∧ page = ⟨rest, false, none⟩ ∨
        ∃ left last next, left ≠ [] ∧ page.items ++ left = rest ∧
          page.items.length = size.toNat ∧ page.hasMore = true ∧
          page.items.getLast? = some last ∧ page.nextCursor = some next ∧
          Cursor.decode next = .ok (some (sortKey last))) := by
  have hrows : ∀ a ∈ rest.take (size.toNat + 1), (sortKey a).createdAt.Counted := fun a ha =>
    hcounted a (List.mem_of_mem_take ha)
  have hlength : (rest.take (size.toNat + 1)).length = min (size.toNat + 1) rest.length :=
    List.length_take
  obtain ⟨page, hpage⟩ := exists_assemble size hrows
  refine ⟨page, hpage, ?_⟩
  rcases assemble_spec hrows hpage with ⟨hfits, rfl⟩ | ⟨hlong, hitems, hmore, hnext⟩
  · have hall : rest.length ≤ size.toNat := by omega
    exact .inl ⟨hall, by rw [List.take_of_length_le (Nat.le_succ_of_le hall)]⟩
  · obtain ⟨last, next, hlast, hnext, hdecode⟩ := hnext
    rw [List.take_take, Nat.min_eq_left (Nat.le_succ _)] at hitems
    refine .inr ⟨rest.drop size.toNat, last, next, ?_, ?_, ?_, hmore, hlast, hnext, hdecode⟩
    · apply List.ne_nil_of_length_pos
      rw [List.length_drop]
      omega
    · rw [hitems, List.take_append_drop]
    · rw [hitems, List.length_take]
      omega

/-- From a cursor that names the last record passed, the pages split the records that are left. -/
lemma exists_walk_append (hlimit : ∀ i, limits.Accepts (limit i))
    (hperm : (passed ++ rest).Perm records)
    (hordered : (passed ++ rest).Pairwise fun a b =>
      (SortOrder.ofTimeDesc (timeDesc.getD true)).precedes (sortKey a) (sortKey b))
    (hcounted : ∀ a ∈ rest, (sortKey a).createdAt.Counted) (i : Nat) {cursor : Option String}
    (hstart : StartsAt cursor (passed.getLast?.map sortKey)) :
    ∃ pages, Walk (fun i cursor => PageRequest.pageOf ⟨limit i, cursor, timeDesc⟩ limits records)
        i cursor pages ∧
      Splits (fun i => (limit i).getD limits.defaultLimit) i rest pages := by
  -- each page that is not the last leaves fewer records
  induction hn : rest.length using Nat.strong_induction_on generalizing rest passed i cursor with
  | _ n ih =>
  subst hn
  have hfetch := pageOf_eq_assemble ⟨limit i, cursor, timeDesc⟩ (hlimit i) hperm hordered hstart
  obtain ⟨page, hpage, ⟨hfits, rfl⟩ | ⟨left, last, next, hleft, rfl, hfull, hmore, hlast, hnext,
    hdecode⟩⟩ := exists_assemble_take ⟨_, (hlimit i).1⟩ hcounted
  · exact ⟨_, .last (hfetch.trans hpage) rfl, .single hfits⟩
  · have hlength : left.length < (page.items ++ left).length := by
      have hitems := List.length_pos_of_mem (List.mem_of_getLast? hlast)
      rw [List.length_append]
      omega
    have hnamed : StartsAt (some next) ((passed ++ page.items).getLast?.map sortKey) := by
      rw [List.getLast?_append, hlast, Option.some_or]
      exact hdecode
    rw [← List.append_assoc] at hperm hordered
    obtain ⟨later, hwalk, hlater⟩ := ih left.length hlength hperm hordered
      (fun a ha => hcounted a (List.mem_append_right _ ha)) (i + 1) hnamed rfl
    exact ⟨page :: later, .next (hfetch.trans hpage) hnext hwalk,
      .cons hmore hfull hlast hnext hdecode hleft hlater⟩

/-- Ascending records, turned around if the newest come first, are in the order of the listing. -/
lemma pairwise_directed {ascending : List α} (timeDesc : Option Bool)
    (hascending : ascending.Pairwise fun a b => compare (sortKey a) (sortKey b) = .lt) :
    (if timeDesc.getD true then ascending.reverse else ascending).Pairwise fun a b =>
      (SortOrder.ofTimeDesc (timeDesc.getD true)).precedes (sortKey a) (sortKey b) := by
  cases timeDesc.getD true with
  | true =>
    rw [if_pos rfl, List.pairwise_reverse]
    exact hascending.imp SortOrder.precedes_iff_of_descending.mpr
  | false => exact hascending.imp SortOrder.precedes_iff_of_ascending.mpr

/-- The pages of a walk through records in memory split the records in the order of the listing. -/
lemma exists_walk {ascending : List α} (timeDesc : Option Bool)
    (hlimit : ∀ i, limits.Accepts (limit i)) (hperm : ascending.Perm records)
    (hascending : ascending.Pairwise fun a b => compare (sortKey a) (sortKey b) = .lt)
    (hcounted : ∀ a ∈ records, (sortKey a).createdAt.Counted) :
    ∃ pages, Walk (fun i cursor => PageRequest.pageOf ⟨limit i, cursor, timeDesc⟩ limits records)
        0 none pages ∧
      Splits (fun i => (limit i).getD limits.defaultLimit) 0
        (if timeDesc.getD true then ascending.reverse else ascending) pages := by
  have hall := (directed_perm (timeDesc.getD true) ascending).trans hperm
  have hstart : StartsAt none (([] : List α).getLast?.map sortKey) := rfl
  refine exists_walk_append hlimit hall (pairwise_directed timeDesc hascending) ?_ 0 hstart
  intro a ha
  exact hcounted a (hall.mem_iff.mp ha)

/-- A drain of records in memory gets all pages of its walk. -/
theorem exists_drain {request : PageRequest} {ascending : List α}
    (hlimit : limits.Accepts request.limit) (hcursor : request.cursor = none)
    (hperm : ascending.Perm records)
    (hascending : ascending.Pairwise fun a b => compare (sortKey a) (sortKey b) = .lt)
    (hcounted : ∀ a ∈ records, (sortKey a).createdAt.Counted) :
    ∃ pages, request.drain limits records = .ok pages ∧
      Splits (fun _ => request.limit.getD limits.defaultLimit) 0
        (if request.timeDesc.getD true then ascending.reverse else ascending) pages := by
  obtain ⟨pages, hwalk, hsplits⟩ := exists_walk request.timeDesc (fun _ => hlimit) hperm hascending
    hcounted
  refine ⟨pages, ?_, hsplits⟩
  have hlength : pages.length ≤ records.length + 1 := by
    rw [← (hsplits.items_perm.trans hperm).length_eq, hsplits.items]
    exact hsplits.length_le
  rw [PageRequest.drain, hcursor]
  exact hwalk.drain_eq_ok hlength

/-- Following cursors through different records in memory ends without an error, in one way for each
choice of page sizes, and returns the records in ascending order or in the reverse of it. -/
theorem walk_splits (records : List α) (hnodup : (records.map sortKey).Nodup)
    (hcounted : ∀ a ∈ records, (sortKey a).createdAt.Counted) :
    ∃ ascending : List α, ascending.Perm records ∧
      ascending.Pairwise (fun a b => compare (sortKey a) (sortKey b) = .lt) ∧
      ∀ (limits : PagingLimits) (timeDesc : Option Bool) (limit : Nat → Option Nat),
        (∀ i, limits.Accepts (limit i)) →
          ∃ pages, (∀ pages', Walk (fun i cursor =>
              PageRequest.pageOf ⟨limit i, cursor, timeDesc⟩ limits records) 0 none pages' ↔
                pages' = pages) ∧
            Splits (fun i => (limit i).getD limits.defaultLimit) 0
              (if timeDesc.getD true then ascending.reverse else ascending) pages := by
  have hperm : (KeysetQuery.sorted records).Perm records := List.mergeSort_perm _ _
  have hascending := KeysetQuery.pairwise_sorted_records hnodup
  refine ⟨_, hperm, hascending, fun limits timeDesc limit hlimit => ?_⟩
  obtain ⟨pages, hwalk, hsplits⟩ := exists_walk timeDesc hlimit hperm hascending hcounted
  refine ⟨pages, fun pages' => ⟨fun h => hwalk.unique h, ?_⟩, hsplits⟩
  rintro rfl
  exact hwalk

/-- Pages of one record, which end between two records of one time. -/
theorem walk_splits_one_time :
    let a : SortKey := ⟨.ofNanos ⟨-1, by decide⟩, .ofNat 3⟩
    let b : SortKey := ⟨.ofNanos ⟨0, by decide⟩, .ofNat 1⟩
    let c : SortKey := ⟨.ofNanos ⟨0, by decide⟩, .ofNat 2⟩
    ∃ pages, Walk (fun _ cursor => PageRequest.pageOf ⟨some 1, cursor, none⟩ {} [b, a, c])
        0 none pages ∧
      pages.flatMap Page.items = [c, b, a] ∧ ∀ page ∈ pages, page.items.length ≤ 1 := by
  intro a b c
  have hcounted : ∀ key ∈ [b, a, c], key.createdAt.Counted := by
    intro key hkey
    simp only [List.mem_cons, List.not_mem_nil, or_false] at hkey
    rcases hkey with rfl | rfl | rfl <;> exact ⟨_, rfl⟩
  obtain ⟨ascending, hperm, hascending, hwalk⟩ := walk_splits [b, a, c] (by decide) hcounted
  obtain ⟨pages, hpages, hsplits⟩ := hwalk {} none (fun _ => some 1) fun _ =>
    ⟨by decide, by decide⟩
  refine ⟨pages, (hpages pages).mpr rfl, ?_, fun page hpage => ?_⟩
  · have hsorted : [a, b, c].Pairwise fun a b => compare (sortKey a) (sortKey b) = .lt := by decide
    have hsame : ascending = [a, b, c] := by
      refine List.Perm.eq_of_pairwise (fun a b _ _ hab hba => ?_) hascending hsorted
        (hperm.trans (by decide))
      simp [OrientedCmp.gt_iff_lt.mpr hab] at hba
    rw [hsplits.items, hsame]
    rfl
  · obtain ⟨k, hk⟩ := List.mem_iff_getElem?.mp hpage
    exact hsplits.fits k page hk

end Page

end Request

end Colloquy
