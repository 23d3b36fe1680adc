import Colloquy.Proofs.Store.Reachable
import Colloquy.Store.Integrity

/-!
# The integrity of stores that operations lead to

A store is linked if none of its references dangles and no place is taken twice (`Linked`). Rows
that are added are checked for it, rows that stay keep their ids, and a row goes only together with
the references to it, so every operation keeps a store linked (`Linked.perform`). With the tables
and the chains of a well-formed store this is its integrity (`integrity_run`).
-/

namespace Colloquy.Store

/-! ### References -/

section References

variable {ρ α : Type} [Row ρ α] {reference : Cell} {rows rows' : List ρ}

/-- A reference does not dangle exactly if it is absent or a row has its id. -/
lemma dangles_eq_false_iff : dangles reference rows = false ↔
    (reference ≠ .null → ∃ r ∈ rows, Row.id r = reference) := by
  unfold dangles
  by_cases hnull : reference = .null
  · simp [hnull]
  · simp [hnull, hasId]

/-- A reference dangles exactly if it is there and no row has its id. -/
lemma dangles_eq_true_iff : dangles reference rows = true ↔
    reference ≠ .null ∧ ∀ r ∈ rows, Row.id r ≠ reference := by
  simp [dangles, hasId]

/-- A reference that is absent does not dangle. -/
@[simp] lemma dangles_null (rows : List ρ) : dangles .null rows = false := rfl

/-- A reference stays good as long as every id of the table stays. -/
lemma dangles_of_ids (h : dangles reference rows = false)
    (hids : ∀ r ∈ rows, ∃ r' ∈ rows', Row.id r' = Row.id r) : dangles reference rows' = false := by
  rw [dangles_eq_false_iff] at h ⊢
  intro hnull
  obtain ⟨r, hr, hid⟩ := h hnull
  obtain ⟨r', hr', hid'⟩ := hids r hr
  exact ⟨r', hr', hid'.trans hid⟩

/-- A reference is still good when rows are added. -/
lemma dangles_append (h : dangles reference rows = false) (more : List ρ) :
    dangles reference (rows ++ more) = false :=
  dangles_of_ids h fun r hr => ⟨r, List.mem_append_left _ hr, rfl⟩

/-- A reference is still good when rows are changed that keep their ids. -/
lemma dangles_map (h : dangles reference rows = false) {f : ρ → ρ}
    (hid : ∀ r, Row.id (f r) = Row.id r) : dangles reference (rows.map f) = false :=
  dangles_of_ids h fun r hr => ⟨f r, List.mem_map_of_mem hr, hid r⟩

/-- A reference is still good when a row is changed that keeps its id. -/
lemma dangles_updateWhere (h : dangles reference rows = false) (id : Uuid) {change : ρ → ρ}
    (hid : ∀ r, Row.id (change r) = Row.id r) :
    dangles reference (updateWhere id change rows) = false := by
  refine dangles_map h fun r => ?_
  split
  · exact hid r
  · rfl

/-- Removing a row does not matter to the references to others. -/
lemma dangles_withoutId (h : dangles reference rows = false) {id : Uuid}
    (hne : reference ≠ .ofUuid id) : dangles reference (withoutId id rows) = false := by
  rw [dangles_eq_false_iff] at h ⊢
  intro hnull
  obtain ⟨r, hr, hid⟩ := h hnull
  have hkept : Row.id r ≠ .ofUuid id := fun hgone => hne (hid ▸ hgone)
  exact ⟨r, List.mem_filter.mpr ⟨hr, by simpa using hkept⟩, hid⟩

end References

/-! ### Linked stores -/

/-- No reference dangles, and no place is taken twice. -/
structure Linked (s : Store) : Prop where
  spaces : ∀ r ∈ s.sessions, dangles r.spaceId s.spaces = false
  sessionsOfMessages : ∀ m ∈ s.messages, dangles m.sessionId s.sessions = false
  sessionsOfTasks : ∀ t ∈ s.tasks, dangles t.sessionId s.sessions = false
  tasks : ∀ m ∈ s.messages, dangles m.taskId s.tasks = false
  places : (s.tasks.map fun t => (t.sessionId, t.order)).Nodup

namespace Linked

variable {s s' : Store}

/-- A store without rows is linked. -/
lemma empty : Store.empty.Linked where
  spaces := by simp [Store.empty]
  sessionsOfMessages := by simp [Store.empty]
  sessionsOfTasks := by simp [Store.empty]
  tasks := by simp [Store.empty]
  places := List.nodup_nil

/-! ### Changes of one table -/

/-- Spaces can be added, and changed but for their ids. -/
lemma change_spaces (h : s.Linked) {spaces : List SpaceRow}
    (hids : ∀ r ∈ s.spaces, ∃ r' ∈ spaces, r'.id = r.id) : Linked { s with spaces } :=
  { h with spaces := fun r hr => dangles_of_ids (h.spaces r hr) hids }

/-- Sessions can be added, and changed but for their ids, if they are connected to stored spaces. -/
lemma change_sessions (h : s.Linked) {sessions : List SessionRow}
    (hids : ∀ r ∈ s.sessions, ∃ r' ∈ sessions, r'.id = r.id)
    (hspaces : ∀ r ∈ sessions, dangles r.spaceId s.spaces = false) :
    Linked { s with sessions } :=
  { h with
    spaces := hspaces
    sessionsOfMessages := fun m hm => dangles_of_ids (h.sessionsOfMessages m hm) hids
    sessionsOfTasks := fun t ht => dangles_of_ids (h.sessionsOfTasks t ht) hids }

/-- Messages can be changed in columns other than session and task. -/
lemma map_messages (h : s.Linked) {f : MessageRow → MessageRow}
    (hsession : ∀ r, (f r).sessionId = r.sessionId) (htask : ∀ r, (f r).taskId = r.taskId) :
    Linked { s with messages := s.messages.map f } :=
  { h with
    sessionsOfMessages := fun m hm => by
      obtain ⟨r, hr, rfl⟩ := List.mem_map.mp hm
      rw [hsession]
      exact h.sessionsOfMessages r hr
    tasks := fun m hm => by
      obtain ⟨r, hr, rfl⟩ := List.mem_map.mp hm
      rw [htask]
      exact h.tasks r hr }

/-- Tasks can be changed in columns other than id, session and place. -/
lemma update_tasks (h : s.Linked) (id : Uuid) {change : TaskRow → TaskRow}
    (hid : ∀ r, (change r).id = r.id) (hsession : ∀ r, (change r).sessionId = r.sessionId)
    (horder : ∀ r, (change r).order = r.order) :
    Linked { s with tasks := updateWhere id change s.tasks } := by
  have hplace : ∀ r : TaskRow, let r' := if Row.id r = .ofUuid id then change r else r
      r'.sessionId = r.sessionId ∧ r'.order = r.order := by
    intro r
    dsimp only
    split
    · exact ⟨hsession r, horder r⟩
    · exact ⟨rfl, rfl⟩
  refine { h with sessionsOfTasks := ?_, tasks := ?_, places := ?_ }
  · intro t ht
    obtain ⟨r, hr, rfl⟩ := List.mem_map.mp ht
    rw [(hplace r).1]
    exact h.sessionsOfTasks r hr
  · exact fun m hm => dangles_updateWhere (h.tasks m hm) id hid
  · have hsame : (updateWhere id change s.tasks).map (fun t => (t.sessionId, t.order)) =
        s.tasks.map fun t => (t.sessionId, t.order) := by
      rw [updateWhere, List.map_map]
      exact List.map_congr_left fun r _ => Prod.ext (hplace r).1 (hplace r).2
    exact hsame ▸ h.places

/-! ### Operations -/

/-- The sessions of a space that is removed are connected to none. -/
lemma deleteSpace (h : s.Linked) {id : Uuid} (hdelete : s.deleteSpace id = .ok s') :
    s'.Linked := by
  obtain ⟨-, rfl⟩ := deleteSpace_eq_ok_iff.mp hdelete
  have hsessions : Linked { s with
      sessions := s.sessions.map fun r =>
        if r.spaceId = .ofUuid id then { r with spaceId := .null } else r } := by
    refine h.change_sessions (fun r hr => ⟨_, List.mem_map_of_mem hr, by split <;> rfl⟩) ?_
    intro r' hr'
    rcases mem_or_exists_of_mem_changed hr' with hkept | ⟨r, -, rfl⟩
    · exact h.spaces r' hkept
    · exact dangles_null _
  refine { hsessions with spaces := fun r' hr' => ?_ }
  obtain ⟨r, hr, rfl⟩ := List.mem_map.mp hr'
  split
  next => exact dangles_null _
  next hother => exact dangles_withoutId (h.spaces r hr) hother

/-- A session that is made is linked to its space. -/
lemma createSession (h : s.Linked) {session : Session}
    (hcreate : s.createSession session = .ok s') : s'.Linked := by
  obtain ⟨row, -, -, hspace, rfl⟩ := createSession_eq_ok_iff.mp hcreate
  refine h.change_sessions (fun r hr => ⟨r, List.mem_append_left _ hr, rfl⟩) fun r hr => ?_
  rcases List.mem_append.mp hr with hold | hlast
  · exact h.spaces r hold
  · rw [List.mem_singleton.mp hlast]
    exact hspace

/-- A session that is connected is linked to its space. -/
lemma connectSession (h : s.Linked) {now : Instant} {id spaceId : Uuid}
    (hconnect : s.connectSession now id spaceId = .ok s') : s'.Linked := by
  obtain ⟨space, updatedAt, hspace, -, -, rfl⟩ := connectSession_eq_ok_iff.mp hconnect
  have hstored : dangles (.ofUuid spaceId) s.spaces = false := by
    rw [dangles_eq_false_iff]
    intro _
    unfold Store.space? Listing.find? at hspace
    split at hspace
    next => simp at hspace
    next r hr =>
      have hid := List.find?_some hr
      exact ⟨r, List.mem_of_find?_eq_some hr, by simpa using hid⟩
  refine h.change_sessions (fun r hr => ⟨_, List.mem_map_of_mem hr, by split <;> rfl⟩) ?_
  intro r' hr'
  rcases mem_or_exists_of_mem_changed hr' with hkept | ⟨r, -, rfl⟩
  · exact h.spaces r' hkept
  · exact hstored

/-- With a session go the references to it and to its tasks, whichever message has them. -/
lemma deleteSession (h : s.Linked) (hs : s.WellFormed) {id : Uuid}
    (hdelete : s.deleteSession id = .ok s') : s'.Linked := by
  obtain ⟨-, rfl⟩ := deleteSession_eq_ok (hs.closed _) hs.tasks.nodup_rows hdelete
  refine ⟨?_, ?_, ?_, ?_, ?_⟩
  · intro r hr
    exact h.spaces r (List.mem_of_mem_filter hr)
  · intro m' hm'
    obtain ⟨m, hm, rfl⟩ := List.mem_map.mp hm'
    obtain ⟨hstored, hother⟩ := List.mem_filter.mp hm
    rw [Deletion.clearTasks_sessionId]
    exact dangles_withoutId (h.sessionsOfMessages m hstored) (by simpa using hother)
  · intro t ht
    obtain ⟨hstored, hother⟩ := List.mem_filter.mp ht
    exact dangles_withoutId (h.sessionsOfTasks t hstored) (by simpa using hother)
  · intro m' hm'
    obtain ⟨m, hm, rfl⟩ := List.mem_map.mp hm'
    have hgood := h.tasks m (List.mem_of_mem_filter hm)
    unfold Deletion.clearTasks
    split
    next => exact dangles_null _
    next hkept =>
      rw [dangles_eq_false_iff] at hgood ⊢
      intro hnull
      obtain ⟨t, ht, hid⟩ := hgood hnull
      refine ⟨t, List.mem_filter.mpr ⟨ht, ?_⟩, hid⟩
      -- a task of the session would have been taken from the message
      by_contra hown
      refine hkept (List.any_eq_true.mpr ⟨t, List.mem_filter.mpr ⟨ht, by simpa using hown⟩, ?_⟩)
      have hid' : t.id = m.taskId := hid
      simp [Deletion.isOfTask, hid', hnull]
  · exact h.places.sublist (List.filter_sublist.map _)

/-- A message that is inserted is linked to its session, its parent and its task. -/
lemma insertMessage (h : s.Linked) {message message' : Message}
    (hinsert : s.insertMessage message = .ok (s', message')) : s'.Linked := by
  obtain ⟨parentId, row, -, rfl, -, -, hsession, -, htask, rfl⟩ :=
    insertMessage_eq_ok_iff.mp hinsert
  refine { h with sessionsOfMessages := fun m hm => ?_, tasks := fun m hm => ?_ }
  · rcases List.mem_append.mp hm with hold | hlast
    · exact h.sessionsOfMessages m hold
    · exact List.mem_singleton.mp hlast ▸ hsession
  · rcases List.mem_append.mp hm with hold | hlast
    · exact h.tasks m hold
    · exact List.mem_singleton.mp hlast ▸ htask

/-- Setting the status of messages changes no links. -/
lemma setProcessStatus (h : s.Linked) {now : Instant} {ids : List Uuid} {status : TaskStatus}
    {n : Nat} (hset : s.setProcessStatus now ids status = .ok (s', n)) : s'.Linked := by
  obtain ⟨updatedAt, -, rfl⟩ := setProcessStatus_eq_ok hset
  exact h.map_messages (fun r => by split <;> rfl) fun r => by split <;> rfl

/-- A task that is inserted is linked to its session. -/
lemma insertTask (h : s.Linked) {task : Task} (hinsert : s.insertTask task = .ok s') :
    s'.Linked := by
  obtain ⟨row, -, hfree, -, hsession, rfl⟩ := insertTask_eq_ok_iff.mp hinsert
  refine { h with sessionsOfTasks := ?_, tasks := ?_, places := ?_ }
  · intro t ht
    rcases List.mem_append.mp ht with hold | hlast
    · exact h.sessionsOfTasks t hold
    · exact List.mem_singleton.mp hlast ▸ hsession
  · exact fun m hm => dangles_append (h.tasks m hm) _
  · rw [List.map_append, List.map_singleton, List.nodup_append]
    refine ⟨h.places, List.nodup_singleton _, fun place hplace other hother heq => ?_⟩
    obtain ⟨t, ht, rfl⟩ := List.mem_map.mp hplace
    rw [List.mem_singleton.mp hother, Prod.mk.injEq] at heq
    have hfree := List.any_eq_false.mp hfree t ht
    simp [heq.1, heq.2] at hfree

/-- Every operation that is carried out leads to a linked store again. -/
theorem perform (h : s.Linked) (hs : s.WellFormed) {op : Operation} (hop : s.perform op = .ok s') :
    s'.Linked := by
  cases op with
  | migrate =>
    obtain ⟨-, rfl⟩ := migrate_eq_ok_iff.mp hop
    exact { h with }
  | createSpace space =>
    obtain ⟨row, -, -, rfl⟩ := createSpace_eq_ok_iff.mp hop
    exact h.change_spaces fun r hr => ⟨r, List.mem_append_left _ hr, rfl⟩
  | updateSpaceConfigs now id configs =>
    obtain ⟨updatedAt, -, -, rfl⟩ := updateSpaceConfigs_eq_ok_iff.mp hop
    exact h.change_spaces fun r hr => ⟨_, List.mem_map_of_mem hr, by split <;> rfl⟩
  | deleteSpace id => exact h.deleteSpace hop
  | createSession session => exact h.createSession hop
  | updateSessionConfigs now id configs =>
    obtain ⟨updatedAt, -, -, rfl⟩ := updateSessionConfigs_eq_ok_iff.mp hop
    refine h.change_sessions (fun r hr => ⟨_, List.mem_map_of_mem hr, by split <;> rfl⟩) ?_
    intro r' hr'
    obtain ⟨r, hr, rfl⟩ := List.mem_map.mp hr'
    split <;> exact h.spaces r hr
  | connectSession now id spaceId => exact h.connectSession hop
  | deleteSession id => exact h.deleteSession hs hop
  | insertMessage message =>
    obtain ⟨⟨s', message'⟩, hinsert, rfl⟩ := map_eq_ok_iff.mp hop
    exact h.insertMessage hinsert
  | setProcessStatus now ids status =>
    obtain ⟨⟨s', n⟩, hset, rfl⟩ := map_eq_ok_iff.mp hop
    exact h.setProcessStatus hset
  | insertTask task => exact h.insertTask hop
  | updateTaskStatus now id status =>
    obtain ⟨updatedAt, -, -, rfl⟩ := updateTaskStatus_eq_ok_iff.mp hop
    exact h.update_tasks id (fun _ => rfl) (fun _ => rfl) fun _ => rfl
  | markTaskDigested now id =>
    obtain ⟨updatedAt, -, -, rfl⟩ := markTaskDigested_eq_ok_iff.mp hop
    exact h.update_tasks id (fun _ => rfl) (fun _ => rfl) fun _ => rfl
  | createDisk disk =>
    obtain ⟨row, -, -, rfl⟩ := createDisk_eq_ok_iff.mp hop
    exact { h with }
  | deleteDisk id =>
    obtain ⟨-, rfl⟩ := deleteDisk_eq_ok_iff.mp hop
    exact { h with }

/-- A step leads from a linked store to a linked one. -/
lemma step (h : s.Linked) (hs : s.WellFormed) (op : Operation) : (s.step op).Linked := by
  unfold Store.step
  split
  next hop => exact h.perform hs hop
  next => exact h

/-- A run leads from a linked store to a linked one. -/
lemma run (h : s.Linked) (hs : s.WellFormed) (ops : List Operation) : (s.run ops).Linked := by
  induction ops generalizing s with
  | nil => exact h
  | cons op rest ih => exact ih (h.step hs op) (hs.step op)

end Linked

/-- The stores that operations lead to are linked. -/
theorem Reachable.linked {s : Store} (h : s.Reachable) : s.Linked := by
  obtain ⟨ops, rfl⟩ := h
  exact Linked.empty.run .empty ops

/-! ### Integrity -/

/-- The session of a message is stored. -/
lemma Linked.exists_session {s : Store} (h : s.Linked) (hs : s.WellFormed) {m : MessageRow}
    (hm : m ∈ s.messages) : ∃ r ∈ s.sessions, r.id = m.sessionId := by
  obtain ⟨message, hrow⟩ := hs.messages.written m hm
  obtain ⟨-, hsession, -⟩ := Message.toRow_eq_ok_iff.mp hrow
  exact dangles_eq_false_iff.mp (h.sessionsOfMessages m hm) (by simp [hsession])

/-- A message replies to a stored message of its session, or to none. -/
lemma WellFormed.exists_parent {s : Store} (hs : s.WellFormed) {m : MessageRow}
    (hm : m ∈ s.messages) (hnull : m.parentId ≠ .null) :
    ∃ parent ∈ s.messages, parent.id = m.parentId ∧ parent.sessionId = m.sessionId := by
  have hmem : m ∈ s.messages.filter fun r => r.sessionId == m.sessionId :=
    List.mem_filter.mpr ⟨hm, beq_self_eq_true m.sessionId⟩
  rcases (hs.chained m.sessionId).exists_parent hmem with hfirst | ⟨parent, hparent, hid⟩
  · exact absurd hfirst hnull
  · obtain ⟨hstored, hsession⟩ := List.mem_filter.mp hparent
    exact ⟨parent, hstored, hid, eq_of_beq hsession⟩

/-- Whatever operations are carried out or refused, ids and places stay unique, and references name
stored rows. -/
theorem integrity_run (ops : List Operation) : (Store.empty.run ops).Integrity := by
  have hs : (Store.empty.run ops).WellFormed := .run .empty ops
  have hlinked : (Store.empty.run ops).Linked := .run .empty .empty ops
  refine ⟨hs.spaces.nodup, hs.sessions.nodup, hs.messages.nodup, hs.tasks.nodup, hs.disks.nodup,
    hlinked.places, ?_, ?_, ?_, ?_, ?_⟩
  · intro r hr
    exact dangles_eq_false_iff.mp (hlinked.spaces r hr)
  · exact fun m hm => hlinked.exists_session hs hm
  · intro t ht
    obtain ⟨task, hrow⟩ := hs.tasks.written t ht
    obtain ⟨-, hsession, -⟩ := Task.toRow_eq_ok_iff.mp hrow
    exact dangles_eq_false_iff.mp (hlinked.sessionsOfTasks t ht) (by simp [hsession])
  · intro m hm hnull
    exact hs.exists_parent hm hnull
  · intro m hm
    exact dangles_eq_false_iff.mp (hlinked.tasks m hm)

end Colloquy.Store
