import Colloquy.Proofs.Store.Scope
import Colloquy.Store.Drain

/-!
# Drains return each record once

A page is cut from the positions that lie ahead, and the next one starts where it ends. So the
positions of a drain ascend strictly in its order, whatever happens between its requests: one that
has been passed does not lie ahead again, and one that is kept lies ahead until a page reaches it
(`Drain.returns_once`).
-/

namespace Colloquy

namespace Store

open Cursor (StartsAt)

variable {scope : Scope} {order : SortOrder} {s : Store} {cursor : Option String}
  {start : Option SortKey} {page : Page scope.Record} {fetches : List (Fetch scope)}

/-! ### Positions of a scope -/

/-- The positions of a scope are the keys of its rows. -/
lemma WellFormed.positions_eq (h : s.WellFormed) (scope : Scope) :
    s.positions scope = (s.rows scope).map Row.key := by
  rw [positions, ← List.filterMap_eq_map]
  refine List.filterMap_congr fun r hr => ?_
  exact ((h.rows scope).written r hr).isAt_key.position?

/-- Different records of a scope have different ids at their positions. -/
lemma WellFormed.nodup_positions (h : s.WellFormed) (scope : Scope) :
    ((s.positions scope).map SortKey.id).Nodup := by
  rw [h.positions_eq]
  exact (h.rows scope).nodup_keys

/-! ### One page -/

/-- A page from a cursor is cut from the positions of the scope that lie ahead. -/
lemma Answers.exists_cutFrom (h : s.Answers order cursor page) (hs : s.WellFormed)
    (hstart : StartsAt cursor start) :
    ∃ keys, page.CutFrom keys ∧ keys.Pairwise (fun a b => order.precedes a b) ∧
      ∀ key, key ∈ keys ↔ key ∈ s.positions scope ∧ order.Ahead start key := by
  obtain ⟨request, limits, q, rfl, hq, rfl, hlist⟩ := h
  obtain ⟨hcounted, hafter⟩ := PageRequest.resolve_eq_ok hq
  obtain rfl : q.after = start := StartsAt.unique hafter hstart
  rw [list_eq_page] at hlist
  have hcut := Listing.cutFrom_of_page (hs.rows scope).written hcounted hlist
  rw [← hs.positions_eq scope] at hcut
  have hnodup : ((s.positions scope).filter q.admits).Nodup :=
    ((hs.nodup_positions scope).of_map _).filter _
  refine ⟨_, hcut, q.pairwise_oriented_sorted hnodup, fun key => ?_⟩
  rw [KeysetQuery.mem_oriented, KeysetQuery.sorted, List.mem_mergeSort, List.mem_filter,
    KeysetQuery.admits_iff]

/-- A page with more to come ends at the position that the next one starts at: what it holds does
not come after that position, and what it leaves out does. -/
lemma exists_last_of_cutFrom {keys : List SortKey} (h : page.CutFrom keys)
    (hascends : keys.Pairwise fun a b => order.precedes a b) (hmore : page.hasMore = true) :
    ∃ last ∈ page.items.map sortKey, StartsAt page.nextCursor (some last) ∧
      (∀ key ∈ page.items.map sortKey, key = last ∨ order.precedes key last) ∧
      ∀ key ∈ keys, key ∈ page.items.map sortKey ∨ order.precedes last key := by
  obtain ⟨last, next, hlast, hnext, hdecode⟩ := h.next hmore
  obtain ⟨rest, rfl, -⟩ := h.begins
  obtain ⟨before, hitems⟩ := List.getLast?_eq_some_iff.mp hlast
  have hmem : sortKey last ∈ page.items.map sortKey :=
    List.mem_map_of_mem (List.mem_of_getLast? hlast)
  obtain ⟨hpage, -, hrest⟩ := List.pairwise_append.mp hascends
  refine ⟨sortKey last, hmem, ?_, fun key hkey => ?_, fun key hkey => ?_⟩
  · rw [hnext]
    exact hdecode
  · rw [hitems, List.map_append, List.map_singleton] at hkey hpage
    rcases List.mem_append.mp hkey with hbefore | hlast
    · exact .inr ((List.pairwise_append.mp hpage).2.2 key hbefore _ (List.mem_singleton_self _))
    · exact .inl (List.mem_singleton.mp hlast)
  · exact (List.mem_append.mp hkey).imp_right fun hkey => hrest _ hmem key hkey

/-! ### All pages -/

namespace Drain

/-- The positions of a drain lie ahead of where it starts, and ascend in its order. -/
lemma ascends (h : Drain scope order s cursor fetches) (hs : s.WellFormed)
    (hstart : StartsAt cursor start) :
    ((drained fetches).map sortKey).Pairwise (fun a b => order.precedes a b) ∧
      ∀ key ∈ (drained fetches).map sortKey, order.Ahead start key := by
  induction h generalizing start with
  | last hpage _ =>
    obtain ⟨keys, hcut, hascends, hmem⟩ := hpage.exists_cutFrom hs hstart
    obtain ⟨rest, rfl, -⟩ := hcut.begins
    rw [drained, List.flatMap_singleton]
    exact ⟨(List.pairwise_append.mp hascends).1,
      fun key hkey => ((hmem key).mp (List.mem_append_left _ hkey)).2⟩
  | next hpage hmore ops _ ih =>
    obtain ⟨keys, hcut, hascends, hmem⟩ := hpage.exists_cutFrom hs hstart
    obtain ⟨last, hlast, hnext, hpassed, -⟩ := exists_last_of_cutFrom hcut hascends hmore
    obtain ⟨rest, rfl, -⟩ := hcut.begins
    obtain ⟨hlater, hbeyond⟩ := ih (hs.run ops) hnext
    have hahead : ∀ key ∈ _, order.Ahead start key := fun key hkey =>
      ((hmem key).mp (List.mem_append_left _ hkey)).2
    rw [drained, List.flatMap_cons, List.map_append]
    refine ⟨List.pairwise_append.mpr ⟨(List.pairwise_append.mp hascends).1, hlater, ?_⟩, ?_⟩
    · intro key hkey key' hkey'
      have hlast_key' := hbeyond key' hkey' last rfl
      rcases hpassed key hkey with rfl | hkey_last
      · exact hlast_key'
      · exact SortOrder.precedes_trans hkey_last hlast_key'
    · intro key hkey
      rcases List.mem_append.mp hkey with hkey | hkey
      · exact hahead key hkey
      · exact (hahead last hlast).trans (hbeyond key hkey last rfl)

/-- A position ahead that is taken at every request is returned. -/
lemma mem_of_kept (h : Drain scope order s cursor fetches) (hs : s.WellFormed)
    (hstart : StartsAt cursor start) {key : SortKey} (hahead : order.Ahead start key)
    (hkept : ∀ fetch ∈ fetches, key ∈ fetch.store.positions scope) :
    key ∈ (drained fetches).map sortKey := by
  induction h generalizing start with
  | last hpage hmore =>
    obtain ⟨keys, hcut, -, hmem⟩ := hpage.exists_cutFrom hs hstart
    obtain ⟨rest, rfl, hrest⟩ := hcut.begins
    have hkey := (hmem key).mpr ⟨hkept _ List.mem_cons_self, hahead⟩
    rw [hrest hmore, List.append_nil] at hkey
    rw [drained, List.flatMap_singleton]
    exact hkey
  | next hpage hmore ops _ ih =>
    obtain ⟨keys, hcut, hascends, hmem⟩ := hpage.exists_cutFrom hs hstart
    obtain ⟨last, -, hnext, -, hleft⟩ := exists_last_of_cutFrom hcut hascends hmore
    rw [drained, List.flatMap_cons, List.map_append]
    rcases hleft key ((hmem key).mpr ⟨hkept _ List.mem_cons_self, hahead⟩) with hpage | hlast
    · exact List.mem_append_left _ hpage
    · refine List.mem_append_right _ (ih (hs.run ops) hnext ?_ fun fetch hfetch => ?_)
      · rintro position ⟨⟩
        exact hlast
      · exact hkept fetch (List.mem_cons_of_mem _ hfetch)

/-- What a drain returns was stored at its position when it was fetched. -/
lemma exists_fetch_of_mem (h : Drain scope order s cursor fetches) (hs : s.WellFormed)
    (hstart : StartsAt cursor start) {a : scope.Record} (ha : a ∈ drained fetches) :
    ∃ fetch ∈ fetches, fetch.store.WellFormed ∧ sortKey a ∈ fetch.store.positions scope := by
  induction h generalizing start with
  | last hpage _ =>
    obtain ⟨keys, hcut, -, hmem⟩ := hpage.exists_cutFrom hs hstart
    obtain ⟨rest, rfl, -⟩ := hcut.begins
    rw [drained, List.flatMap_singleton] at ha
    exact ⟨_, List.mem_cons_self, hs,
      ((hmem _).mp (List.mem_append_left _ (List.mem_map_of_mem ha))).1⟩
  | next hpage hmore ops _ ih =>
    obtain ⟨keys, hcut, hascends, hmem⟩ := hpage.exists_cutFrom hs hstart
    obtain ⟨last, -, hnext, -, -⟩ := exists_last_of_cutFrom hcut hascends hmore
    obtain ⟨rest, rfl, -⟩ := hcut.begins
    rw [drained, List.flatMap_cons] at ha
    rcases List.mem_append.mp ha with ha | ha
    · exact ⟨_, List.mem_cons_self, hs,
        ((hmem _).mp (List.mem_append_left _ (List.mem_map_of_mem ha))).1⟩
    · obtain ⟨fetch, hfetch, hstored⟩ := ih (hs.run ops) hnext ha
      exact ⟨fetch, List.mem_cons_of_mem _ hfetch, hstored⟩

/-- Only one element is let through if all that are agree in what all elements differ in. -/
lemma filter_eq_singleton {α β : Type} {f : α → β} {p : α → Bool} {l : List α} {a : α}
    (hnodup : (l.map f).Nodup) (ha : a ∈ l) (hp : p a) (hsame : ∀ b ∈ l, p b → f b = f a) :
    l.filter p = [a] := by
  obtain ⟨before, after, rfl⟩ := List.append_of_mem ha
  rw [List.map_append, List.map_cons, List.nodup_middle, List.nodup_cons,
    ← List.map_append] at hnodup
  have hothers : ∀ b ∈ before ++ after, ¬p b := fun b hb hpb => by
    refine hnodup.1 (List.mem_map.mpr ⟨b, hb, hsame b ?_ hpb⟩)
    rcases List.mem_append.mp hb with hb | hb
    · exact List.mem_append_left _ hb
    · exact List.mem_append_right _ (List.mem_cons_of_mem _ hb)
  rw [List.filter_append, List.filter_cons_of_pos hp,
    List.filter_eq_nil_iff.mpr fun b hb => hothers b (List.mem_append_left _ hb),
    List.filter_eq_nil_iff.mpr fun b hb => hothers b (List.mem_append_right _ hb), List.nil_append]

/-- A drain returns its records in strictly ascending order, and each one that keeps its position in
the scope exactly once, whatever operations run between its requests. -/
theorem returns_once (hs : s.Reachable) (h : Drain scope order s none fetches) :
    (drained fetches).Pairwise (fun a b => order.precedes (sortKey a) (sortKey b)) ∧
      ((drained fetches).map sortKey).Nodup ∧
      ∀ key, (∀ fetch ∈ fetches, key ∈ fetch.store.positions scope) →
        ∃ a, (drained fetches).filter (fun a => (sortKey a).id == key.id) = [a] ∧
          sortKey a = key := by
  obtain ⟨hascends, -⟩ := h.ascends hs.wellFormed rfl
  have hnodup : ((drained fetches).map sortKey).Nodup := by
    refine hascends.imp fun {a b} hab hsame => ?_
    rw [hsame] at hab
    exact order.precedes_irrefl b hab
  refine ⟨List.pairwise_map.mp hascends, hnodup, fun key hkept => ?_⟩
  have hahead : order.Ahead none key := fun position hposition => by simp at hposition
  obtain ⟨a, ha, rfl⟩ := List.mem_map.mp (h.mem_of_kept hs.wellFormed rfl hahead hkept)
  refine ⟨a, filter_eq_singleton hnodup ha (beq_self_eq_true _) fun b hb hid => ?_, rfl⟩
  obtain ⟨fetch, hfetch, hwell, hstored⟩ := h.exists_fetch_of_mem hs.wellFormed rfl hb
  exact List.inj_on_of_nodup_map (hwell.nodup_positions scope) hstored (hkept fetch hfetch)
    (eq_of_beq hid)

/-- Disks of one time on two pages; in between the first one goes, and two come on either side of
the place where the second page starts. -/
theorem returns_once_two_pages :
    let disk (id : Nat) : Disk := .new (.ofNat id) (.ofNanos ⟨0, by decide⟩) (.ofNat 7)
    let s := empty.run [.createDisk (disk 2), .createDisk (disk 4)]
    let ops := [.deleteDisk (.ofNat 2), .createDisk (disk 1), .createDisk (disk 5)]
    let cursor := "MHwwMDAwMDAwMC0wMDAwLTAwMDAtMDAwMC0wMDAwMDAwMDAwMDI"
    let fetches : List (Fetch (.disks (.ofNat 7))) :=
      [⟨s, [disk 2], true, some cursor⟩, ⟨s.run ops, [disk 4, disk 5], false, none⟩]
    Drain (.disks (.ofNat 7)) .ascending s none fetches ∧
      ∃ a, (drained fetches).filter (fun a => (sortKey a).id == .ofNat 4) = [a] ∧
        sortKey a = sortKey (disk 4) := by
  intro disk s ops cursor fetches
  have hs : s.Reachable := ⟨_, rfl⟩
  let q : KeysetQuery := ⟨none, .ascending, ⟨1, by decide⟩⟩
  let q' : KeysetQuery := ⟨some (sortKey (disk 2)), .ascending, ⟨5, by decide⟩⟩
  have hpage : s.listDisks (.ofNat 7) q = .ok ⟨[disk 2], true, some cursor⟩ := by
    refine Listing.page_eq_ok_of_pairwise s.disks [disk 2, disk 4] ?_ ?_ ?_ ?_ <;> decide +kernel
  have hpage' : (s.run ops).listDisks (.ofNat 7) q' = .ok ⟨[disk 4, disk 5], false, none⟩ := by
    refine Listing.page_eq_ok_of_pairwise ((s.run ops).disks.eraseIdx 1) [disk 4, disk 5]
      ?_ ?_ ?_ ?_ <;> decide +kernel
  have hresolve : PageRequest.resolve ⟨some 5, some cursor, some false⟩ {} = .ok q' := by
    decide +kernel
  have hdrain : Drain (.disks (.ofNat 7)) .ascending s none fetches :=
    .next ⟨⟨some 1, none, some false⟩, {}, q, rfl, rfl, rfl, hpage⟩ rfl ops
      (.last ⟨⟨some 5, some cursor, some false⟩, {}, q', rfl, hresolve, rfl, hpage'⟩ rfl)
  have hkept : sortKey (disk 4) ∈ s.positions (.disks (.ofNat 7)) ∧
      sortKey (disk 4) ∈ (s.run ops).positions (.disks (.ofNat 7)) := by decide +kernel
  -- what the store holds is not to be computed once more
  clear_value s
  obtain ⟨-, -, honce⟩ := returns_once hs hdrain
  refine ⟨hdrain, honce (sortKey (disk 4)) fun fetch hfetch => ?_⟩
  rcases List.mem_pair.mp hfetch with rfl | rfl
  · exact hkept.1
  · exact hkept.2

end Drain

end Store

end Colloquy
