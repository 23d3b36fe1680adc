import Colloquy.Proofs.Store.Integrity
import Colloquy.Proofs.Store.Keeping
import Colloquy.Store.Filter

/-!
# The filters part the sessions of a project

A session is connected to a stored space or to none, so exactly one of the filters for no space and
for each stored space lets it through. What drains of these filters return are the parts of what a
drain of all sessions returns (`Store.Parted`). Connecting a session to a space moves this session
and no other, and removing a space moves its sessions, and no other (`Store.parts_sessions`).
-/

namespace Colloquy

/-! ### Lists that are parted -/

/-- Parting a list by a key keeps its elements, if every key is there once. -/
lemma flatMap_filter_perm {κ α : Type} [DecidableEq κ] {keys : List κ} {key : α → κ} {l : List α}
    (hnodup : keys.Nodup) (hkeys : ∀ a ∈ l, key a ∈ keys) :
    (keys.flatMap fun k => l.filter fun a => key a == k).Perm l := by
  induction l with
  | nil => simp
  | cons a rest ih =>
    have hrest := ih fun b hb => hkeys b (List.mem_cons_of_mem _ hb)
    obtain ⟨before, after, rfl⟩ := List.append_of_mem (hkeys a List.mem_cons_self)
    rw [List.nodup_middle, List.nodup_cons, List.mem_append, not_or] at hnodup
    -- only the part of its key gets the first element
    have hother : ∀ {part : List κ}, key a ∉ part →
        (part.flatMap fun k => (a :: rest).filter fun b => key b == k) =
          part.flatMap fun k => rest.filter fun b => key b == k := by
      intro part hpart
      refine List.flatMap_congr fun k hk => List.filter_cons_of_neg ?_
      exact fun hsame => hpart (eq_of_beq hsame ▸ hk)
    have hown : ((a :: rest).filter fun b => key b == key a) =
        a :: rest.filter fun b => key b == key a := List.filter_cons_of_pos (beq_self_eq_true _)
    rw [List.flatMap_append, List.flatMap_cons] at hrest ⊢
    rw [hother hnodup.1.1, hother hnodup.1.2, hown, List.cons_append]
    exact List.perm_middle.trans (hrest.cons a)

namespace Scope

/-- A filter other than the one for all sessions lets those through of which it is the own filter.
-/
lemma lets_eq_ownFilter {filter : SessionFilter} (h : filter ≠ .all) (a : Session) :
    lets filter a = (a.ownFilter == filter) := by
  cases filter with
  | all => exact absurd rfl h
  | inSpace id => cases hspace : a.spaceId <;> simp [lets, Session.ownFilter, hspace]
  | notConnected => cases hspace : a.spaceId <;> simp [lets, Session.ownFilter, hspace]

end Scope

/-! ### Sessions in the order of a listing -/

namespace Session

variable {all : List Session} {projectId : Uuid} {filter : SessionFilter} {timeDesc : Option Bool}

/-- What is listed are the sessions of the project that the filter lets through. -/
lemma mem_listed {a : Session} : a ∈ listed all projectId filter timeDesc ↔
    a ∈ all ∧ a.projectId = projectId ∧ Scope.lets filter a = true := by
  unfold listed
  rw [List.mem_filter, Bool.and_eq_true, beq_iff_eq]
  split <;> simp [KeysetQuery.sorted]

/-- Filtering a list of sessions and turning it around can be done in either order. -/
lemma listed_eq : listed all projectId filter timeDesc =
    let ascending := (KeysetQuery.sorted all).filter fun a =>
      a.projectId == projectId && Scope.lets filter a
    if timeDesc.getD true then ascending.reverse else ascending := by
  unfold listed
  split
  · exact List.filter_reverse
  · rfl

/-- What a filter lets through of a project is what it lets through of all its sessions. -/
lemma filter_listed : (listed all projectId .all timeDesc).filter (Scope.lets filter) =
    listed all projectId filter timeDesc := by
  unfold listed
  rw [List.filter_filter]
  refine List.filter_congr fun a _ => ?_
  rw [Bool.and_comm, Scope.lets, Bool.and_true]

/-- Sessions are listed in the direction that is asked for. -/
lemma pairwise_listed (h : (all.map sortKey).Nodup) :
    (listed all projectId filter timeDesc).Pairwise fun a b =>
      (SortOrder.ofTimeDesc (timeDesc.getD true)).precedes (sortKey a) (sortKey b) := by
  have hascending := KeysetQuery.pairwise_sorted_records h
  refine List.Pairwise.filter _ ?_
  cases timeDesc.getD true with
  | true =>
    rw [if_pos rfl, List.pairwise_reverse]
    exact hascending.imp SortOrder.precedes_iff_of_descending.mpr
  | false => exact hascending.imp SortOrder.precedes_iff_of_ascending.mpr

/-- A session that is connected keeps its position. -/
lemma sortKey_connected {now : Instant} {id spaceId : Uuid} {a : Session} :
    sortKey (a.connected now id spaceId) = sortKey a := by
  unfold connected
  split <;> rfl

/-- A session that is connected stays in its project. -/
lemma projectId_connected {now : Instant} {id spaceId : Uuid} {a : Session} :
    (a.connected now id spaceId).projectId = a.projectId := by
  unfold connected
  split <;> rfl

/-- A session that loses its space keeps its position. -/
lemma sortKey_freed {spaceId : Uuid} {a : Session} : sortKey (a.freed spaceId) = sortKey a := by
  unfold freed
  split <;> rfl

/-- A session that loses its space stays in its project. -/
lemma projectId_freed {spaceId : Uuid} {a : Session} :
    (a.freed spaceId).projectId = a.projectId := by
  unfold freed
  split <;> rfl

/-- Changing sessions in fields other than project, time and id changes no place in the order. -/
lemma listed_map {change : Session → Session} (hkey : ∀ a, sortKey (change a) = sortKey a)
    (hproject : ∀ a, (change a).projectId = a.projectId) :
    listed (all.map change) projectId filter timeDesc =
      ((listed all projectId .all timeDesc).map change).filter (Scope.lets filter) := by
  have hsorted : KeysetQuery.sorted (all.map change) = (KeysetQuery.sorted all).map change :=
    (List.map_mergeSort fun a _ b _ => by rw [hkey, hkey]).symm
  have horder : ∀ l : List Session, (if timeDesc.getD true then (l.map change).reverse
      else l.map change) = (if timeDesc.getD true then l.reverse else l).map change := by
    intro l
    rw [apply_ite (List.map change), List.map_reverse]
  unfold listed
  simp only [hsorted, horder, List.filter_map, List.filter_filter]
  refine congrArg (List.map change) (List.filter_congr fun a _ => ?_)
  rw [Function.comp_apply, hproject, Function.comp_apply, Scope.lets.eq_1, Bool.and_true,
    Bool.and_comm]

end Session

namespace Store

variable {s s' : Store} {scope : Scope}

/-! ### What drains return -/

/-- A drain of a scope comes to an end, in one way for each choice of page sizes, and these records
are what it returns. -/
def Yields (s : Store) (scope : Scope) (timeDesc : Option Bool) (records : List scope.Record) :
    Prop :=
  ∀ (limits : PagingLimits) (limit : Nat → Option Nat), (∀ i, limits.Accepts (limit i)) →
    ∃ pages, (∀ pages', s.DrainsTo scope limits timeDesc limit pages' ↔ pages' = pages) ∧
      pages.flatMap Page.items = records

/-- A drain returns the records of a scope in its order. -/
lemma yields_of_reads (hs : s.WellFormed) {records ascending : List scope.Record}
    (hrecords : Listing.Reads (s.rows scope) records) (hperm : ascending.Perm records)
    (hascending : ascending.Pairwise fun a b => compare (sortKey a) (sortKey b) = .lt)
    (timeDesc : Option Bool) :
    s.Yields scope timeDesc (if timeDesc.getD true then ascending.reverse else ascending) := by
  intro limits limit hlimit
  obtain ⟨pages, hwalk, hsplits⟩ := Page.exists_walk timeDesc hlimit hperm hascending
    (hrecords.counted (hs.rows scope).written)
  have hdrains : s.DrainsTo scope limits timeDesc limit pages :=
    hwalk.mono fun _ _ _ => pageOf_eq_ok_of_reads hs hrecords
  refine ⟨pages, fun pages' => ⟨fun h => hdrains.unique h, ?_⟩, hsplits.items⟩
  rintro rfl
  exact hdrains

/-- What drains return of the sessions of a project, and how the filters part them. -/
structure Parted (s : Store)
    (listed : Uuid → SessionFilter → Option Bool → List Session) : Prop where
  yields : ∀ projectId filter timeDesc,
    s.Yields (.sessions projectId filter) timeDesc (listed projectId filter timeDesc)
  ordered : ∀ projectId filter timeDesc, (listed projectId filter timeDesc).Pairwise fun a b =>
    (SortOrder.ofTimeDesc (timeDesc.getD true)).precedes (sortKey a) (sortKey b)
  /-- Without a filter all sessions of the project are returned. -/
  mem_all : ∀ projectId timeDesc a, a ∈ listed projectId .all timeDesc ↔
    a.projectId = projectId ∧ ∃ r ∈ s.sessions, r.read = .ok a
  /-- A session is returned with one of the filters for no space and for the stored spaces. -/
  once : ∀ projectId timeDesc, ∀ a ∈ listed projectId .all timeDesc,
    ∃! filter, filter ∈ s.ownFilters ∧ a ∈ listed projectId filter timeDesc
  /-- With all of these filters together the same sessions are returned as without one. -/
  merged : ∀ projectId timeDesc,
    (s.ownFilters.flatMap fun filter => listed projectId filter timeDesc).Perm
      (listed projectId .all timeDesc)
  /-- No session is returned for a space that is not stored. -/
  unknown : ∀ projectId timeDesc spaceId, hasId (.ofUuid spaceId) s.spaces = false →
    listed projectId (.inSpace spaceId) timeDesc = []

/-! ### The filters that part sessions -/

/-- The ids of the stored spaces are those in their rows. -/
lemma WellFormed.map_spaceIds (h : s.WellFormed) :
    s.spaceIds.map Cell.ofUuid = s.spaces.map SpaceRow.id := by
  have hkey : ∀ r ∈ s.spaces, r.id = .ofUuid (Row.key r).id := fun r hr =>
    (h.spaces.written r hr).isAt_key.1
  have hids : s.spaceIds = s.spaces.map fun r => (Row.key r).id := by
    rw [spaceIds, ← List.filterMap_eq_map]
    refine List.filterMap_congr fun r hr => ?_
    rw [hkey r hr, Cell.uuid?_ofUuid]
    rfl
  rw [hids, List.map_map]
  exact List.map_congr_left fun r hr => (hkey r hr).symm

/-- The ids of the stored spaces are those that are found. -/
lemma WellFormed.mem_spaceIds (h : s.WellFormed) {id : Uuid} :
    id ∈ s.spaceIds ↔ hasId (.ofUuid id) s.spaces = true := by
  rw [← List.mem_map_of_injective fun _ _ => Cell.ofUuid_injective, h.map_spaceIds,
    hasId_eq_true_iff]
  exact List.mem_map

/-- There is a filter for each stored space. -/
lemma inSpace_mem_ownFilters {id : Uuid} : .inSpace id ∈ s.ownFilters ↔ id ∈ s.spaceIds := by
  simp [ownFilters]

/-- The filter for all sessions is the own filter of none. -/
lemma all_not_mem_ownFilters : .all ∉ s.ownFilters := by
  simp [ownFilters]

/-- The own filters differ from one another. -/
lemma WellFormed.nodup_ownFilters (h : s.WellFormed) : s.ownFilters.Nodup := by
  have hids : s.spaceIds.Nodup := by
    have hnodup := h.spaces.nodup
    rw [show s.spaces.map Row.id = _ from h.map_spaceIds.symm] at hnodup
    exact hnodup.of_map _
  refine List.nodup_cons.mpr ⟨by simp, hids.map fun id id' hsame => ?_⟩
  exact SessionFilter.inSpace.inj hsame

/-- A session that is stored has one of the filters for no space and for the stored spaces. -/
lemma ownFilter_mem (hs : s.Reachable) {r : SessionRow} (hr : r ∈ s.sessions) {a : Session}
    (ha : r.read = .ok a) : a.ownFilter ∈ s.ownFilters := by
  obtain ⟨-, hspace⟩ := SessionRow.owners_of_read (hs.wellFormed.sessions.written r hr) ha
  unfold Session.ownFilter
  cases hid : a.spaceId with
  | none => exact List.mem_cons_self
  | some id =>
    rw [hid, Cell.ofUuid?_some] at hspace
    obtain ⟨space, hstored, hsame⟩ := dangles_eq_false_iff.mp (hs.linked.spaces r hr)
      (hspace ▸ Cell.ofUuid_ne_null id)
    rw [inSpace_mem_ownFilters, hs.wellFormed.mem_spaceIds, hasId_eq_true_iff]
    exact ⟨space, hstored, hsame.trans hspace⟩

/-- What is listed of the sessions that the rows are read as is what drains return, and is parted.
-/
lemma parted_of_reads (hs : s.Reachable) {all : List Session}
    (hall : Listing.Reads s.sessions all) : s.Parted (Session.listed all) := by
  have hwell := hs.wellFormed
  have hnodup : (all.map sortKey).Nodup := by
    rw [hall.map_sortKey hwell.sessions.written]
    exact hwell.sessions.nodup_keys.of_map _
  have hmem : ∀ a, a ∈ all ↔ ∃ r ∈ s.sessions, r.read = .ok a := by
    intro a
    refine ⟨hall.exists_row, fun ⟨r, hr, ha⟩ => ?_⟩
    obtain ⟨b, hb, hread⟩ := hall.exists_record hr
    exact Except.ok.inj (ha.symm.trans hread) ▸ hb
  have hown : ∀ a ∈ all, a.ownFilter ∈ s.ownFilters := by
    intro a ha
    obtain ⟨r, hr, hread⟩ := (hmem a).mp ha
    exact ownFilter_mem hs hr hread
  have hlets : ∀ filter ∈ s.ownFilters, ∀ a, Scope.lets filter a = (a.ownFilter == filter) := by
    intro filter hfilter
    exact Scope.lets_eq_ownFilter fun hall => all_not_mem_ownFilters (hall ▸ hfilter)
  refine ⟨?_, ?_, ?_, ?_, ?_, ?_⟩
  · intro projectId filter timeDesc
    have hrows : Listing.Reads (s.rows (.sessions projectId filter))
        (all.filter fun a => a.projectId == projectId && Scope.lets filter a) :=
      reads_rows hwell (Listing.readAll_eq_ok_iff.mpr hall)
    rw [Session.listed_eq]
    exact yields_of_reads hwell hrows ((List.mergeSort_perm _ _).filter _)
      ((KeysetQuery.pairwise_sorted_records hnodup).filter _) timeDesc
  · intro projectId filter timeDesc
    exact Session.pairwise_listed hnodup
  · intro projectId timeDesc a
    rw [Session.mem_listed, hmem, and_comm, Scope.lets]
    simp
  · intro projectId timeDesc a ha
    obtain ⟨ha, hproject, -⟩ := Session.mem_listed.mp ha
    refine ⟨a.ownFilter, ⟨hown a ha, ?_⟩, fun filter ⟨hfilter, hlisted⟩ => ?_⟩
    · rw [Session.mem_listed, hlets _ (hown a ha)]
      exact ⟨ha, hproject, beq_self_eq_true _⟩
    · obtain ⟨-, -, hlet⟩ := Session.mem_listed.mp hlisted
      rw [hlets filter hfilter] at hlet
      exact (eq_of_beq hlet).symm
  · intro projectId timeDesc
    have hparts : ∀ filter ∈ s.ownFilters, Session.listed all projectId filter timeDesc =
        (Session.listed all projectId .all timeDesc).filter fun a => a.ownFilter == filter := by
      intro filter hfilter
      rw [← Session.filter_listed]
      exact List.filter_congr fun a _ => hlets filter hfilter a
    rw [List.flatMap_congr hparts]
    refine flatMap_filter_perm hwell.nodup_ownFilters fun a ha => ?_
    exact hown a (Session.mem_listed.mp ha).1
  · intro projectId timeDesc spaceId hunknown
    refine List.eq_nil_iff_forall_not_mem.mpr fun a ha => ?_
    obtain ⟨ha, -, hlet⟩ := Session.mem_listed.mp ha
    rw [Scope.lets_eq_ownFilter (by simp)] at hlet
    have hstored := hown a ha
    rw [eq_of_beq hlet, inSpace_mem_ownFilters, hwell.mem_spaceIds, hunknown] at hstored
    exact Bool.false_ne_true hstored

/-! ### Sessions that move -/

/-- Connecting a session in the table is connecting it in what is read. -/
lemma reads_connected (hs : s.WellFormed) {all : List Session}
    (hall : Listing.Reads s.sessions all) {now : Instant} {updatedAt : Cell}
    (hnow : Cell.ofInstant now = .ok updatedAt) (id spaceId : Uuid) :
    Listing.Reads
      (updateWhere id (fun r => { r with spaceId := .ofUuid spaceId, updatedAt }) s.sessions)
      (all.map (Session.connected now id spaceId)) := by
  refine hall.map fun r hr a ha => ?_
  have hrow : Row.id r = .ofUuid id ↔ a.id = id := by
    rw [(hs.sessions.written r hr).id_of_read ha]
    exact Cell.ofUuid_inj
  unfold Session.connected
  by_cases hsame : a.id = id
  · rw [if_pos hsame, if_pos (hrow.mpr hsame)]
    obtain ⟨hid, hproject, -, hconfigs, hcreated, -⟩ := SessionRow.read_eq_ok_iff.mp ha
    exact SessionRow.read_eq_ok_iff.mpr ⟨hid, hproject, Cell.optionalUuid?_ofUuid? _ (some spaceId),
      hconfigs, hcreated, Cell.instant?_ofInstant hnow _⟩
  · rw [if_neg hsame, if_neg (mt hrow.mp hsame)]
    exact ha

/-- Clearing references to a space in the table is clearing them in what is read. -/
lemma reads_freed (hs : s.WellFormed) {all : List Session} (hall : Listing.Reads s.sessions all)
    (spaceId : Uuid) :
    Listing.Reads
      (s.sessions.map fun r =>
        if r.spaceId = .ofUuid spaceId then { r with spaceId := .null } else r)
      (all.map (Session.freed spaceId)) := by
  refine hall.map fun r hr a ha => ?_
  have hrow : r.spaceId = .ofUuid spaceId ↔ a.spaceId = some spaceId := by
    rw [(SessionRow.owners_of_read (hs.sessions.written r hr) ha).2]
    exact Cell.ofUuid?_eq_ofUuid
  unfold Session.freed
  by_cases hsame : a.spaceId = some spaceId
  · rw [if_pos hsame, if_pos (hrow.mpr hsame)]
    obtain ⟨hid, hproject, -, hrest⟩ := SessionRow.read_eq_ok_iff.mp ha
    exact SessionRow.read_eq_ok_iff.mpr ⟨hid, hproject, rfl, hrest⟩
  · rw [if_neg hsame, if_neg (mt hrow.mp hsame)]
    exact ha

/-- If the sessions can be read, what drains of the filters for no space and for the stored spaces
return are the parts of what a drain of all sessions of a project returns, in its order. Connecting
a session to a space changes this session and no other, and nothing else that is stored; removing a
space frees the sessions that were connected to it and touches neither messages nor tasks. What
drains return then is what they returned before, with these sessions changed. -/
theorem parts_sessions (hs : s.Reachable) (hread : ∀ r ∈ s.sessions, ∃ a, r.read = .ok a) :
    ∃ listed, s.Parted listed ∧
      (∀ now id spaceId s', s.connectSession now id spaceId = .ok s' →
        ∃ listed', s'.Parted listed' ∧
          (∀ projectId filter timeDesc, listed' projectId filter timeDesc =
            ((listed projectId .all timeDesc).map (Session.connected now id spaceId)).filter
              (Scope.lets filter)) ∧
          (∃ projectId, ∀ timeDesc, ∃ a ∈ listed' projectId (.inSpace spaceId) timeDesc,
            a.id = id) ∧
          s' = { s with sessions := s'.sessions }) ∧
      ∀ spaceId s', s.deleteSpace spaceId = .ok s' →
        ∃ listed', s'.Parted listed' ∧
          (∀ projectId filter timeDesc, listed' projectId filter timeDesc =
            ((listed projectId .all timeDesc).map (Session.freed spaceId)).filter
              (Scope.lets filter)) ∧
          s'.messages = s.messages ∧ s'.tasks = s.tasks ∧ s'.disks = s.disks := by
  have hwell := hs.wellFormed
  obtain ⟨all, hall⟩ := Listing.exists_reads hread
  refine ⟨_, parted_of_reads hs hall, fun now id spaceId s' hconnect => ?_,
    fun spaceId s' hdelete => ?_⟩
  · have hs' : s'.Reachable :=
      hs.perform (show s.perform (.connectSession now id spaceId) = _ from hconnect)
    obtain ⟨space, updatedAt, hspace, hnow, hid, rfl⟩ := connectSession_eq_ok_iff.mp hconnect
    have hall' := reads_connected hwell hall hnow id spaceId
    refine ⟨_, parted_of_reads hs' hall', fun projectId filter timeDesc => ?_, ?_, rfl⟩
    · exact Session.listed_map (fun _ => Session.sortKey_connected) fun _ =>
        Session.projectId_connected
    · obtain ⟨r, hr, hrow⟩ := hasId_eq_true_iff.mp hid
      obtain ⟨a, ha, hread⟩ := hall.exists_record hr
      have hsame : a.id = id := Cell.ofUuid_injective
        (((hwell.sessions.written r hr).id_of_read hread).symm.trans hrow)
      refine ⟨a.projectId, fun timeDesc => ⟨a.connected now id spaceId, ?_, ?_⟩⟩
      · refine Session.mem_listed.mpr ⟨List.mem_map_of_mem ha, Session.projectId_connected, ?_⟩
        simp [Session.connected, hsame, Scope.lets]
      · simp [Session.connected, hsame]
  · have hs' : s'.Reachable :=
      hs.perform (show s.perform (.deleteSpace spaceId) = _ from hdelete)
    obtain ⟨-, rfl⟩ := deleteSpace_eq_ok_iff.mp hdelete
    have hall' := reads_freed hwell hall spaceId
    refine ⟨_, parted_of_reads hs' hall', fun projectId filter timeDesc => ?_, rfl, rfl, rfl⟩
    exact Session.listed_map (fun _ => Session.sortKey_freed) fun _ => Session.projectId_freed

/-- A space goes that sessions of two projects are connected to. -/
theorem parts_sessions_two_projects :
    let time : Instant := .ofNanos ⟨0, by decide⟩
    let session (id projectId : Nat) (spaceId : Option Uuid) : Operation :=
      .createSession (.new (.ofNat id) time (.ofNat projectId) spaceId [])
    let space := Uuid.ofNat 1
    let s := empty.run [.createSpace (.new space time (.ofNat 7) []), session 2 7 (some space),
      session 3 7 none, session 4 8 (some space)]
    let s' := s.run [.deleteSpace space]
    ∃ listed listed', s.Parted listed ∧ s'.Parted listed' ∧
      ∀ projectId timeDesc, listed' projectId .notConnected timeDesc =
        ((listed projectId .all timeDesc).map (Session.freed space)).filter
          (Scope.lets .notConnected) := by
  intro time session space s s'
  have hs : s.Reachable := ⟨_, rfl⟩
  have hread : (Listing.readAll s.sessions).isOk = true := by decide +kernel
  have hdelete : s.perform (.deleteSpace space) = .ok s' := perform_eq_ok_run (by decide +kernel)
  -- what the stores hold is not to be computed once more
  clear_value s s'
  have hall : ∀ r ∈ s.sessions, ∃ a, r.read = .ok a := by
    intro r hr
    cases hall : Listing.readAll s.sessions with
    | error e => simp [hall, Except.isOk, Except.toBool] at hread
    | ok all =>
      obtain ⟨a, -, ha⟩ := (Listing.readAll_eq_ok_iff.mp hall).exists_record hr
      exact ⟨a, ha⟩
  obtain ⟨listed, hparted, -, hdeleted⟩ := parts_sessions hs hall
  obtain ⟨listed', hparted', hlisted', -⟩ := hdeleted space s' hdelete
  exact ⟨listed, listed', hparted, hparted', fun projectId => hlisted' projectId .notConnected⟩

end Store

end Colloquy
