import Colloquy.Proofs.Store.Reachable

/-!
# Where rows come from

A space, session, message, task or disk that is stored after an operation was stored before, and of
it the operation has left all but a few columns as they were (`Remains`), or the operation has just
inserted it.
-/

namespace Colloquy

/-- What stays of a space while it is stored: only its configuration can be replaced. -/
structure SpaceRow.Remains (r r' : SpaceRow) : Prop where
  id : r'.id = r.id
  projectId : r'.projectId = r.projectId
  createdAt : r'.createdAt = r.createdAt

/-- A space stays what it is. -/
lemma SpaceRow.Remains.refl (r : SpaceRow) : r.Remains r := ⟨rfl, rfl, rfl⟩

/-- What stays of a session while it is stored: it can be connected to another space or to none, and
its configuration can be replaced. -/
structure SessionRow.Remains (r r' : SessionRow) : Prop where
  id : r'.id = r.id
  projectId : r'.projectId = r.projectId
  createdAt : r'.createdAt = r.createdAt

/-- A session stays what it is. -/
lemma SessionRow.Remains.refl (r : SessionRow) : r.Remains r := ⟨rfl, rfl, rfl⟩

/-- What stays of a message while it is stored: it can only lose its task, and get another status.
-/
structure MessageRow.Remains (m m' : MessageRow) : Prop where
  id : m'.id = m.id
  sessionId : m'.sessionId = m.sessionId
  parentId : m'.parentId = m.parentId
  role : m'.role = m.role
  metadata : m'.metadata = m.metadata
  parts : m'.parts = m.parts
  taskId : m'.taskId = m.taskId ∨ m'.taskId = .null
  createdAt : m'.createdAt = m.createdAt

/-- A message stays what it is. -/
lemma MessageRow.Remains.refl (m : MessageRow) : m.Remains m :=
  ⟨rfl, rfl, rfl, rfl, rfl, rfl, .inl rfl, rfl⟩

/-- What stays of a task while it is stored: it can only be marked, and get another status. -/
structure TaskRow.Remains (t t' : TaskRow) : Prop where
  id : t'.id = t.id
  sessionId : t'.sessionId = t.sessionId
  order : t'.order = t.order
  data : t'.data = t.data
  isPlanning : t'.isPlanning = t.isPlanning
  spaceDigested : t'.spaceDigested = t.spaceDigested ∨ t'.spaceDigested = .ofBool true
  createdAt : t'.createdAt = t.createdAt

/-- A task stays what it is. -/
lemma TaskRow.Remains.refl (t : TaskRow) : t.Remains t :=
  ⟨rfl, rfl, rfl, rfl, rfl, .inl rfl, rfl⟩

namespace Store

variable {s s' : Store} {op : Operation}

/-- A stored space was stored before, or has just been made; its configuration is the one that it
had, unless the operation replaces it. -/
lemma origin_of_space (hop : s.perform op = .ok s') {r' : SpaceRow} (hr' : r' ∈ s'.spaces) :
    (∃ r ∈ s.spaces, r.Remains r' ∧ (r'.configs = r.configs ∨
      ∃ now id configs, op = .updateSpaceConfigs now id configs ∧ r'.configs = .ofObject configs)) ∨
      ∃ space : Space, op = .createSpace space ∧ space.toRow = .ok r' := by
  have hkept : r' ∈ s.spaces → ∃ r ∈ s.spaces, r.Remains r' ∧ (r'.configs = r.configs ∨
      ∃ now id configs, op = .updateSpaceConfigs now id configs ∧ r'.configs = .ofObject configs) :=
    fun hr => ⟨r', hr, .refl r', .inl rfl⟩
  cases op with
  | createSpace space =>
    obtain ⟨row, hrow, -, rfl⟩ := createSpace_eq_ok_iff.mp hop
    rcases List.mem_append.mp hr' with hold | hlast
    · exact .inl (hkept hold)
    · obtain rfl := List.mem_singleton.mp hlast
      exact .inr ⟨space, rfl, hrow⟩
  | updateSpaceConfigs now id configs =>
    obtain ⟨updatedAt, -, -, rfl⟩ := updateSpaceConfigs_eq_ok_iff.mp hop
    rcases mem_or_exists_of_mem_changed hr' with hold | ⟨r, hr, rfl⟩
    · exact .inl (hkept hold)
    · exact .inl ⟨r, hr, ⟨rfl, rfl, rfl⟩, .inr ⟨now, id, configs, rfl, rfl⟩⟩
  | deleteSpace id =>
    obtain ⟨-, rfl⟩ := deleteSpace_eq_ok_iff.mp hop
    exact .inl (hkept (List.mem_of_mem_filter hr'))
  | _ =>
    have hsame : s'.spaces = s.spaces :=
      (perform_frame hop).spaces (by simp [Operation.changes])
    exact .inl (hkept (hsame ▸ hr'))

/-- A stored session was stored before, or has just been made; its configuration is the one that it
had, unless the operation replaces it. -/
lemma origin_of_session (hs : s.WellFormed) (hop : s.perform op = .ok s') {r' : SessionRow}
    (hr' : r' ∈ s'.sessions) :
    (∃ r ∈ s.sessions, r.Remains r' ∧ (r'.configs = r.configs ∨
      ∃ now id configs, op = .updateSessionConfigs now id configs ∧
        r'.configs = .ofObject configs)) ∨
      ∃ session : Session, op = .createSession session ∧ session.toRow = .ok r' := by
  have hkept : r' ∈ s.sessions → ∃ r ∈ s.sessions, r.Remains r' ∧ (r'.configs = r.configs ∨
      ∃ now id configs, op = .updateSessionConfigs now id configs ∧
        r'.configs = .ofObject configs) :=
    fun hr => ⟨r', hr, .refl r', .inl rfl⟩
  cases op with
  | deleteSpace id =>
    obtain ⟨-, rfl⟩ := deleteSpace_eq_ok_iff.mp hop
    rcases mem_or_exists_of_mem_changed hr' with hold | ⟨r, hr, rfl⟩
    · exact .inl (hkept hold)
    · exact .inl ⟨r, hr, ⟨rfl, rfl, rfl⟩, .inl rfl⟩
  | createSession session =>
    obtain ⟨row, hrow, -, -, rfl⟩ := createSession_eq_ok_iff.mp hop
    rcases List.mem_append.mp hr' with hold | hlast
    · exact .inl (hkept hold)
    · obtain rfl := List.mem_singleton.mp hlast
      exact .inr ⟨session, rfl, hrow⟩
  | updateSessionConfigs now id configs =>
    obtain ⟨updatedAt, -, -, rfl⟩ := updateSessionConfigs_eq_ok_iff.mp hop
    rcases mem_or_exists_of_mem_changed hr' with hold | ⟨r, hr, rfl⟩
    · exact .inl (hkept hold)
    · exact .inl ⟨r, hr, ⟨rfl, rfl, rfl⟩, .inr ⟨now, id, configs, rfl, rfl⟩⟩
  | connectSession now id spaceId =>
    obtain ⟨space, updatedAt, -, -, -, rfl⟩ := connectSession_eq_ok_iff.mp hop
    rcases mem_or_exists_of_mem_changed hr' with hold | ⟨r, hr, rfl⟩
    · exact .inl (hkept hold)
    · exact .inl ⟨r, hr, ⟨rfl, rfl, rfl⟩, .inl rfl⟩
  | deleteSession id =>
    obtain ⟨-, rfl⟩ := deleteSession_eq_ok (hs.closed _) hs.tasks.nodup_rows hop
    exact .inl (hkept (List.mem_of_mem_filter hr'))
  | _ =>
    have hsame : s'.sessions = s.sessions :=
      (perform_frame hop).sessions (by simp [Operation.changes])
    exact .inl (hkept (hsame ▸ hr'))

/-- A stored message was stored before, or has just been inserted. -/
lemma origin_of_message (hs : s.WellFormed) (hop : s.perform op = .ok s') {m' : MessageRow}
    (hm' : m' ∈ s'.messages) :
    (∃ m ∈ s.messages, m.Remains m') ∨
      ∃ message parentId, op = .insertMessage message ∧
        { message with parentId }.toRow = .ok m' := by
  have hkept : m' ∈ s.messages → ∃ m ∈ s.messages, m.Remains m' := fun hm =>
    ⟨m', hm, .refl m'⟩
  cases op with
  | deleteSession id =>
    obtain ⟨-, rfl⟩ := deleteSession_eq_ok (hs.closed _) hs.tasks.nodup_rows hop
    obtain ⟨m, hm, rfl⟩ := List.mem_map.mp hm'
    refine .inl ⟨m, List.mem_of_mem_filter hm, ?_⟩
    unfold Deletion.clearTasks
    split
    · exact ⟨rfl, rfl, rfl, rfl, rfl, rfl, .inr rfl, rfl⟩
    · exact .refl m
  | insertMessage message =>
    obtain ⟨⟨s', message'⟩, hinsert, rfl⟩ := map_eq_ok_iff.mp hop
    obtain ⟨parentId, row, -, rfl, hrow, -, -, -, -, rfl⟩ := insertMessage_eq_ok_iff.mp hinsert
    rcases List.mem_append.mp hm' with hold | hlast
    · exact .inl (hkept hold)
    · obtain rfl := List.mem_singleton.mp hlast
      exact .inr ⟨message, parentId, rfl, hrow⟩
  | setProcessStatus now ids status =>
    obtain ⟨⟨s', n⟩, hset, rfl⟩ := map_eq_ok_iff.mp hop
    obtain ⟨updatedAt, -, rfl⟩ := setProcessStatus_eq_ok hset
    rcases mem_or_exists_of_mem_changed hm' with hold | ⟨m, hm, rfl⟩
    · exact .inl (hkept hold)
    · exact .inl ⟨m, hm, ⟨rfl, rfl, rfl, rfl, rfl, rfl, .inl rfl, rfl⟩⟩
  | _ =>
    have hsame : s'.messages = s.messages :=
      (perform_frame hop).messages (by simp [Operation.changes])
    exact .inl (hkept (hsame ▸ hm'))

/-- A stored task was stored before, or has just been inserted. -/
lemma origin_of_task (hs : s.WellFormed) (hop : s.perform op = .ok s') {t' : TaskRow}
    (ht' : t' ∈ s'.tasks) :
    (∃ t ∈ s.tasks, t.Remains t') ∨ ∃ task : Task, op = .insertTask task ∧ task.toRow = .ok t' := by
  have hkept : t' ∈ s.tasks → ∃ t ∈ s.tasks, t.Remains t' := fun ht => ⟨t', ht, .refl t'⟩
  cases op with
  | deleteSession id =>
    obtain ⟨-, rfl⟩ := deleteSession_eq_ok (hs.closed _) hs.tasks.nodup_rows hop
    exact .inl (hkept (List.mem_of_mem_filter ht'))
  | insertTask task =>
    obtain ⟨row, hrow, -, -, -, rfl⟩ := insertTask_eq_ok_iff.mp hop
    rcases List.mem_append.mp ht' with hold | hlast
    · exact .inl (hkept hold)
    · obtain rfl := List.mem_singleton.mp hlast
      exact .inr ⟨task, rfl, hrow⟩
  | updateTaskStatus now id status =>
    obtain ⟨updatedAt, -, -, rfl⟩ := updateTaskStatus_eq_ok_iff.mp hop
    rcases mem_or_exists_of_mem_changed ht' with hold | ⟨t, ht, rfl⟩
    · exact .inl (hkept hold)
    · exact .inl ⟨t, ht, ⟨rfl, rfl, rfl, rfl, rfl, .inl rfl, rfl⟩⟩
  | markTaskDigested now id =>
    obtain ⟨updatedAt, -, -, rfl⟩ := markTaskDigested_eq_ok_iff.mp hop
    rcases mem_or_exists_of_mem_changed ht' with hold | ⟨t, ht, rfl⟩
    · exact .inl (hkept hold)
    · exact .inl ⟨t, ht, ⟨rfl, rfl, rfl, rfl, rfl, .inr rfl, rfl⟩⟩
  | _ =>
    have hsame : s'.tasks = s.tasks :=
      (perform_frame hop).tasks (by simp [Operation.changes])
    exact .inl (hkept (hsame ▸ ht'))

/-- A stored disk was stored before, or has just been made. -/
lemma origin_of_disk (hop : s.perform op = .ok s') {r' : DiskRow} (hr' : r' ∈ s'.disks) :
    r' ∈ s.disks ∨ ∃ disk : Disk, op = .createDisk disk ∧ disk.toRow = .ok r' := by
  cases op with
  | createDisk disk =>
    obtain ⟨row, hrow, -, rfl⟩ := createDisk_eq_ok_iff.mp hop
    rcases List.mem_append.mp hr' with hold | hlast
    · exact .inl hold
    · obtain rfl := List.mem_singleton.mp hlast
      exact .inr ⟨disk, rfl, hrow⟩
  | deleteDisk id =>
    obtain ⟨-, rfl⟩ := deleteDisk_eq_ok_iff.mp hop
    exact .inl (List.mem_of_mem_filter hr')
  | _ =>
    have hsame : s'.disks = s.disks :=
      (perform_frame hop).disks (by simp [Operation.changes])
    exact .inl (hsame ▸ hr')

end Store

end Colloquy
