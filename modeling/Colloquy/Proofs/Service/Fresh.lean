import Colloquy.Proofs.Service.Operation

/-!
# Ids that no row has

An operation stores at most one row under a new id, the one that was drawn for it
(`Operation.added?`). So every row that a run of events leaves has an id that one of them drew
(`Service.within_run`), and an id that none of them drew is new in every table.
-/

namespace Colloquy

namespace Store

/-- The id under which an operation adds a row, if it adds one. -/
def Operation.added? : Operation → Option Uuid
  | .createSpace space => some space.id
  | .createSession session => some session.id
  | .insertMessage message => some message.id
  | .insertTask task => some task.id
  | .createDisk disk => some disk.id
  | _ => none

/-- Every row has one of these ids. -/
structure Within (ids : List Uuid) (s : Store) : Prop where
  spaces : ∀ r ∈ s.spaces, ∃ id ∈ ids, r.id = .ofUuid id
  sessions : ∀ r ∈ s.sessions, ∃ id ∈ ids, r.id = .ofUuid id
  messages : ∀ r ∈ s.messages, ∃ id ∈ ids, r.id = .ofUuid id
  tasks : ∀ r ∈ s.tasks, ∃ id ∈ ids, r.id = .ofUuid id
  disks : ∀ r ∈ s.disks, ∃ id ∈ ids, r.id = .ofUuid id

namespace Within

variable {s s' : Store} {ids more : List Uuid}

/-- A store without rows has no ids. -/
lemma empty : Store.empty.Within [] :=
  ⟨by simp [Store.empty], by simp [Store.empty], by simp [Store.empty], by simp [Store.empty],
    by simp [Store.empty]⟩

/-- What is within some ids is within more of them. -/
lemma mono (h : s.Within ids) (hsub : ids ⊆ more) : s.Within more := by
  have hmore {c : Cell} (hc : ∃ id ∈ ids, c = .ofUuid id) : ∃ id ∈ more, c = .ofUuid id := by
    obtain ⟨id, hid, hc⟩ := hc
    exact ⟨id, hsub hid, hc⟩
  exact ⟨fun r hr => hmore (h.spaces r hr), fun r hr => hmore (h.sessions r hr),
    fun r hr => hmore (h.messages r hr), fun r hr => hmore (h.tasks r hr),
    fun r hr => hmore (h.disks r hr)⟩

/-- An operation adds no row under another id than its own. -/
lemma perform (h : s.Within ids) (hs : s.WellFormed) {op : Operation}
    (hop : s.perform op = .ok s') : s'.Within (ids ++ op.added?.toList) := by
  have hold := h.mono (List.subset_append_left ids op.added?.toList)
  have hnew {id : Uuid} (hadded : op.added? = some id) : id ∈ ids ++ op.added?.toList := by
    rw [hadded]
    exact List.mem_append_right _ List.mem_cons_self
  refine ⟨fun r' hr' => ?_, fun r' hr' => ?_, fun r' hr' => ?_, fun r' hr' => ?_,
    fun r' hr' => ?_⟩
  · rcases origin_of_space hop hr' with ⟨r, hr, hrest, -⟩ | ⟨space, rfl, hrow⟩
    · exact hrest.id ▸ hold.spaces r hr
    · exact ⟨space.id, hnew rfl, (Space.toRow_eq_ok_iff.mp hrow).1⟩
  · rcases origin_of_session hs hop hr' with ⟨r, hr, hrest, -⟩ | ⟨session, rfl, hrow⟩
    · exact hrest.id ▸ hold.sessions r hr
    · exact ⟨session.id, hnew rfl, (Session.toRow_eq_ok_iff.mp hrow).1⟩
  · rcases origin_of_message hs hop hr' with ⟨r, hr, hrest⟩ | ⟨message, parentId, rfl, hrow⟩
    · exact hrest.id ▸ hold.messages r hr
    · exact ⟨message.id, hnew rfl, (Message.toRow_eq_ok_iff.mp hrow).1⟩
  · rcases origin_of_task hs hop hr' with ⟨r, hr, hrest⟩ | ⟨task, rfl, hrow⟩
    · exact hrest.id ▸ hold.tasks r hr
    · exact ⟨task.id, hnew rfl, (Task.toRow_eq_ok_iff.mp hrow).1⟩
  · rcases origin_of_disk hop hr' with hr | ⟨disk, rfl, hrow⟩
    · exact hold.disks r' hr
    · exact ⟨disk.id, hnew rfl, (Disk.toRow_eq_ok_iff.mp hrow).1⟩

/-- An id that is none of these is new. -/
lemma hasId_eq_false {ρ α : Type} [Row ρ α] {rows : List ρ} {id : Uuid}
    (h : ∀ r ∈ rows, ∃ id ∈ ids, Row.id r = .ofUuid id) (hid : id ∉ ids) :
    hasId (.ofUuid id) rows = false := by
  rw [hasId_eq_false_iff]
  intro r hr heq
  obtain ⟨other, hother, hr⟩ := h r hr
  exact hid (Cell.ofUuid_injective (heq.symm.trans hr) ▸ hother)

end Within

end Store

/-- What an event draws an id for is the row that its operation adds. -/
lemma Event.drawn?_eq (e : Event) :
    e.drawn? = (e.call.operation? e.fresh e.now).bind Store.Operation.added? := by
  unfold drawn?
  cases e.call <;> rfl

namespace Service

/-- After an event, the ids are those from before and the one that it draws. -/
lemma within_after {s : Service} {ids : List Uuid} (h : s.store.Within ids)
    (hs : s.store.WellFormed) (e : Event) : (s.after e).store.Within (ids ++ e.drawn?.toList) := by
  rcases store_after s e with hsame | ⟨op, hcall, hop⟩
  · exact hsame ▸ h.mono (List.subset_append_left _ _)
  · rw [Event.drawn?_eq, hcall]
    exact h.perform hs hop

/-- The rows that a run leaves have ids that its events drew. -/
lemma within_run (limits : PagingLimits) (queue : Option Queue) (events : List Event) :
    ((start limits queue).run events).store.Within (events.filterMap Event.drawn?) := by
  refine run_induction (P := fun events s => s.Within (events.filterMap Event.drawn?)) .empty ?_
    limits queue events
  intro events s e hs h
  have hlast : [e].filterMap Event.drawn? = e.drawn?.toList := by
    cases hdrawn : e.drawn? <;> simp [hdrawn]
  rw [List.filterMap_append, hlast]
  exact within_after h hs e

end Service

end Colloquy
