import Colloquy.Proofs.Store.Deletion
import Colloquy.Store.Operation

/-!
# What operations come to

For each operation, when it is carried out and what the store is afterwards.
-/

namespace Colloquy.Store

variable {s s' : Store}

/-! ### The layout -/

/-- A store is brought up to date exactly if its version is supported, and then the version is at
least one. -/
lemma migrate_eq_ok_iff : s.migrate = .ok s' ↔
    s.version ≤ supportedVersion ∧ s' = { s with version := max s.version 1 } := by
  unfold migrate
  by_cases hnewer : supportedVersion < s.version
  · simp [hnewer]
  · rw [if_neg hnewer, eq_comm (a := s'), and_iff_right (Int.not_lt.mp hnewer)]
    by_cases holder : s.version < 1
    · have hversion : max s.version 1 = 1 := by omega
      rw [if_pos holder, hversion, Except.ok.injEq]
    · have hversion : max s.version 1 = s.version := by omega
      rw [if_neg holder, hversion, Except.ok.injEq]

/-! ### Spaces -/

/-- A space is made exactly if it can be written and its id is new. -/
lemma createSpace_eq_ok_iff {space : Space} : s.createSpace space = .ok s' ↔
    ∃ row, space.toRow = .ok row ∧ hasId row.id s.spaces = false ∧
      s' = { s with spaces := s.spaces ++ [row] } := by
  simp only [createSpace, bind_eq_ok_iff, pure_eq_ok_iff, append_eq_ok_iff]
  constructor
  · rintro ⟨row, hrow, spaces, ⟨hnew, rfl⟩, rfl⟩
    exact ⟨row, hrow, hnew, rfl⟩
  · rintro ⟨row, hrow, hnew, rfl⟩
    exact ⟨row, hrow, _, ⟨hnew, rfl⟩, rfl⟩

/-- The configuration of a space is replaced exactly if the time has a count and the space is
stored. -/
lemma updateSpaceConfigs_eq_ok_iff {now : Instant} {id : Uuid} {configs : JsonObject} :
    s.updateSpaceConfigs now id configs = .ok s' ↔
      ∃ updatedAt, Cell.ofInstant now = .ok updatedAt ∧ hasId (.ofUuid id) s.spaces = true ∧
        s' = { s with
          spaces := updateWhere id (fun r => { r with configs := .ofObject configs, updatedAt })
            s.spaces } := by
  simp only [updateSpaceConfigs, bind_eq_ok_iff, found_eq_ok_iff]

/-- A space is removed exactly if it is stored, and the references to it are cleared. -/
lemma deleteSpace_eq_ok_iff {id : Uuid} : s.deleteSpace id = .ok s' ↔
    hasId (.ofUuid id) s.spaces = true ∧
      s' = { s with
        spaces := withoutId id s.spaces
        sessions := s.sessions.map fun r =>
          if r.spaceId = .ofUuid id then { r with spaceId := .null } else r } := by
  simp only [deleteSpace, found_eq_ok_iff]

/-! ### Sessions -/

/-- A session is made exactly if it can be written, its id is new and its space is stored. -/
lemma createSession_eq_ok_iff {session : Session} : s.createSession session = .ok s' ↔
    ∃ row, session.toRow = .ok row ∧ hasId row.id s.sessions = false ∧
      dangles row.spaceId s.spaces = false ∧ s' = { s with sessions := s.sessions ++ [row] } := by
  simp only [createSession, bind_eq_ok_iff, pure_eq_ok_iff, append_eq_ok_iff,
    checkReference_eq_ok_iff]
  constructor
  · rintro ⟨row, hrow, sessions, ⟨hnew, rfl⟩, -, hspace, rfl⟩
    exact ⟨row, hrow, hnew, hspace, rfl⟩
  · rintro ⟨row, hrow, hnew, hspace, rfl⟩
    exact ⟨row, hrow, _, ⟨hnew, rfl⟩, (), hspace, rfl⟩

/-- The configuration of a session is replaced exactly if the time has a count and the session is
stored. -/
lemma updateSessionConfigs_eq_ok_iff {now : Instant} {id : Uuid} {configs : JsonObject} :
    s.updateSessionConfigs now id configs = .ok s' ↔
      ∃ updatedAt, Cell.ofInstant now = .ok updatedAt ∧ hasId (.ofUuid id) s.sessions = true ∧
        s' = { s with
          sessions := updateWhere id (fun r => { r with configs := .ofObject configs, updatedAt })
            s.sessions } := by
  simp only [updateSessionConfigs, bind_eq_ok_iff, found_eq_ok_iff]

/-- A session is connected exactly if the space can be looked up, the time has a count and the
session is stored. -/
lemma connectSession_eq_ok_iff {now : Instant} {id spaceId : Uuid} :
    s.connectSession now id spaceId = .ok s' ↔
      ∃ space updatedAt, s.space? spaceId = .ok (some space) ∧ Cell.ofInstant now = .ok updatedAt ∧
        hasId (.ofUuid id) s.sessions = true ∧
        s' = { s with
          sessions := updateWhere id (fun r => { r with spaceId := .ofUuid spaceId, updatedAt })
            s.sessions } := by
  simp only [connectSession, bind_eq_ok_iff]
  constructor
  · rintro ⟨space?, hspace, h⟩
    cases space? with
    | none => simp at h
    | some space =>
      obtain ⟨updatedAt, hnow, h⟩ := bind_eq_ok_iff.mp h
      exact ⟨space, updatedAt, hspace, hnow, found_eq_ok_iff.mp h⟩
  · rintro ⟨space, updatedAt, hspace, hnow, h⟩
    exact ⟨_, hspace, bind_eq_ok_iff.mpr ⟨updatedAt, hnow, found_eq_ok_iff.mpr h⟩⟩

/-- The removal of a session changes the tables of sessions, messages and tasks. -/
lemma exists_of_deleteSession {id : Uuid} (h : s.deleteSession id = .ok s') :
    ∃ sessions messages tasks, s' = { s with sessions, messages, tasks } := by
  unfold deleteSession at h
  split at h
  next =>
    obtain ⟨d, -, h⟩ := bind_eq_ok_iff.mp h
    split at h
    next => exact ⟨d.sessions, d.messages, d.tasks, (pure_eq_ok_iff.mp h).symm⟩
    next => simp at h
  next => simp at h

open Deletion in
/-- A session is removed with its messages and tasks, if replies are in the session of what they
reply to. -/
lemma deleteSession_eq_ok {id : Uuid}
    (hmessages : Closed (fun m => m.sessionId == .ofUuid id) s.messages) (htasks : s.tasks.Nodup)
    (h : s.deleteSession id = .ok s') :
    hasId (.ofUuid id) s.sessions = true ∧
      s' = { s with
        sessions := withoutId id s.sessions
        messages := (s.messages.filter fun m => m.sessionId != .ofUuid id).map
          (clearTasks (s.tasks.filter fun t => t.sessionId == .ofUuid id))
        tasks := s.tasks.filter fun t => t.sessionId != .ofUuid id } := by
  unfold deleteSession at h
  split at h
  next hstored =>
    obtain ⟨d, hd, h⟩ := bind_eq_ok_iff.mp h
    obtain ⟨hsessions, hmessages, htasks⟩ := removeContents_eq_ok hmessages htasks hd
    split at h
    next =>
      obtain rfl := pure_eq_ok_iff.mp h
      exact ⟨hstored, by rw [hsessions, hmessages, htasks]⟩
    next => simp at h
  next => simp at h

/-! ### Messages -/

/-- A message is inserted exactly if it can be written behind the last one of its session, its id is
new and what it names is stored. -/
lemma insertMessage_eq_ok_iff {message message' : Message} :
    s.insertMessage message = .ok (s', message') ↔
      ∃ parentId row, s.lastMessageId? message.sessionId = .ok parentId ∧
        message' = { message with parentId } ∧ message'.toRow = .ok row ∧
        hasId row.id s.messages = false ∧ dangles row.sessionId s.sessions = false ∧
        dangles row.parentId (s.messages ++ [row]) = false ∧ dangles row.taskId s.tasks = false ∧
        s' = { s with messages := s.messages ++ [row] } := by
  simp only [insertMessage, bind_eq_ok_iff, pure_eq_ok_iff, append_eq_ok_iff,
    checkReference_eq_ok_iff, Prod.mk.injEq]
  constructor
  · rintro ⟨parentId, hparent, row, hrow, messages, ⟨hnew, rfl⟩, -, hsession, -, hreply, -, htask,
      rfl, rfl⟩
    exact ⟨parentId, row, hparent, rfl, hrow, hnew, hsession, hreply, htask, rfl⟩
  · rintro ⟨parentId, row, hparent, rfl, hrow, hnew, hsession, hreply, htask, rfl⟩
    exact ⟨parentId, hparent, row, hrow, _, ⟨hnew, rfl⟩, (), hsession, (), hreply, (), htask, rfl,
      rfl⟩

/-- A batch is carried out if its time has a count, and it sets each message that it names. -/
lemma setProcessStatus_eq_ok {now : Instant} {ids : List Uuid} {status : TaskStatus} {n : Nat}
    (h : s.setProcessStatus now ids status = .ok (s', n)) :
    ∃ updatedAt, Cell.ofInstant now = .ok updatedAt ∧
      s' = { s with
        messages := s.messages.map fun r =>
          if r.id ∈ ids.map Cell.ofUuid then
            { r with processStatus := .text status.name, updatedAt }
          else r } := by
  simp only [setProcessStatus, bind_eq_ok_iff, pure_eq_ok_iff] at h
  obtain ⟨updatedAt, hnow, h⟩ := h
  refine ⟨updatedAt, hnow, ?_⟩
  rw [← show (ids.foldl _ (s, 0)).1 = s' from congrArg Prod.fst h]
  clear h
  generalize 0 = n
  induction ids generalizing s n with
  | nil => simp
  | cons id rest ih =>
    rw [List.foldl_cons, ih]
    refine congrArg (fun messages => { s with messages }) (map_updateWhere ?_ ?_ s.messages)
    · exact fun r => rfl
    · exact fun r => rfl

/-! ### Tasks -/

/-- A task is inserted exactly if it can be written, its place is free, its id is new and its
session is stored. -/
lemma insertTask_eq_ok_iff {task : Task} : s.insertTask task = .ok s' ↔
    ∃ row, task.toRow = .ok row ∧
      (s.tasks.any fun r => r.sessionId == row.sessionId && r.order == row.order) = false ∧
      hasId row.id s.tasks = false ∧ dangles row.sessionId s.sessions = false ∧
      s' = { s with tasks := s.tasks ++ [row] } := by
  simp only [insertTask, bind_eq_ok_iff]
  refine exists_congr fun row => and_congr_right fun _ => ?_
  cases s.tasks.any fun r => r.sessionId == row.sessionId && r.order == row.order with
  | true => simp
  | false =>
    simp only [Bool.false_eq_true, if_false, bind_eq_ok_iff, pure_eq_ok_iff, append_eq_ok_iff,
      checkReference_eq_ok_iff, true_and]
    constructor
    · rintro ⟨tasks, ⟨hnew, rfl⟩, -, hsession, rfl⟩
      exact ⟨hnew, hsession, rfl⟩
    · rintro ⟨hnew, hsession, rfl⟩
      exact ⟨_, ⟨hnew, rfl⟩, (), hsession, rfl⟩

/-- The status of a task is set exactly if the time has a count and the task is stored. -/
lemma updateTaskStatus_eq_ok_iff {now : Instant} {id : Uuid} {status : TaskStatus} :
    s.updateTaskStatus now id status = .ok s' ↔
      ∃ updatedAt, Cell.ofInstant now = .ok updatedAt ∧ hasId (.ofUuid id) s.tasks = true ∧
        s' = { s with
          tasks := updateWhere id (fun r => { r with status := .text status.name, updatedAt })
            s.tasks } := by
  simp only [updateTaskStatus, bind_eq_ok_iff, found_eq_ok_iff]

/-- A task is marked exactly if the time has a count and the task is stored. -/
lemma markTaskDigested_eq_ok_iff {now : Instant} {id : Uuid} :
    s.markTaskDigested now id = .ok s' ↔
      ∃ updatedAt, Cell.ofInstant now = .ok updatedAt ∧ hasId (.ofUuid id) s.tasks = true ∧
        s' = { s with
          tasks := updateWhere id (fun r => { r with spaceDigested := .ofBool true, updatedAt })
            s.tasks } := by
  simp only [markTaskDigested, bind_eq_ok_iff, found_eq_ok_iff]

/-! ### Disks -/

/-- A disk is made exactly if it can be written and its id is new. -/
lemma createDisk_eq_ok_iff {disk : Disk} : s.createDisk disk = .ok s' ↔
    ∃ row, disk.toRow = .ok row ∧ hasId row.id s.disks = false ∧
      s' = { s with disks := s.disks ++ [row] } := by
  simp only [createDisk, bind_eq_ok_iff, pure_eq_ok_iff, append_eq_ok_iff]
  constructor
  · rintro ⟨row, hrow, disks, ⟨hnew, rfl⟩, rfl⟩
    exact ⟨row, hrow, hnew, rfl⟩
  · rintro ⟨row, hrow, hnew, rfl⟩
    exact ⟨row, hrow, _, ⟨hnew, rfl⟩, rfl⟩

/-- A disk is removed exactly if it is stored. -/
lemma deleteDisk_eq_ok_iff {id : Uuid} : s.deleteDisk id = .ok s' ↔
    hasId (.ofUuid id) s.disks = true ∧ s' = { s with disks := withoutId id s.disks } := by
  simp only [deleteDisk, found_eq_ok_iff]

end Colloquy.Store
