import Mathlib.Tactic.Lemma
import Colloquy.Proofs.Outcome
import Colloquy.Store.Row

/-!
# Rows column by column

A record is written into a row column by column, and a row is read column by column. The lemmas
here say which cell each field is written into and how each cell is read, so that nothing else has
to look into `Space.toRow`, `SpaceRow.read` and their like.
-/

namespace Colloquy

/-- What is written into each column of a space. -/
lemma Space.toRow_eq_ok_iff {a : Space} {r : SpaceRow} : a.toRow = .ok r ↔
    r.id = .ofUuid a.id ∧ r.projectId = .ofUuid a.projectId ∧ r.configs = .ofObject a.configs ∧
      Cell.ofInstant a.createdAt = .ok r.createdAt ∧
      Cell.ofInstant a.updatedAt = .ok r.updatedAt := by
  simp only [toRow, bind_eq_ok_iff, pure_eq_ok_iff]
  constructor
  · rintro ⟨createdAt, hcreated, updatedAt, hupdated, rfl⟩
    exact ⟨rfl, rfl, rfl, hcreated, hupdated⟩
  · rintro ⟨hid, hproject, hconfigs, hcreated, hupdated⟩
    exact ⟨_, hcreated, _, hupdated, by rw [← hid, ← hproject, ← hconfigs]⟩

/-- A space is read from its columns, one by one. -/
lemma SpaceRow.read_eq_ok_iff {r : SpaceRow} {a : Space} : r.read = .ok a ↔
    r.id.uuid? 0 = .ok a.id ∧ r.projectId.uuid? 1 = .ok a.projectId ∧
      r.configs.json? 2 Json.Reader.object = .ok a.configs ∧
      r.createdAt.instant? 3 = .ok a.createdAt ∧ r.updatedAt.instant? 4 = .ok a.updatedAt := by
  simp only [read, bind_eq_ok_iff, pure_eq_ok_iff]
  constructor
  · rintro ⟨id, hid, projectId, hproject, configs, hconfigs, createdAt, hcreated, updatedAt,
      hupdated, rfl⟩
    exact ⟨hid, hproject, hconfigs, hcreated, hupdated⟩
  · rintro ⟨hid, hproject, hconfigs, hcreated, hupdated⟩
    exact ⟨_, hid, _, hproject, _, hconfigs, _, hcreated, _, hupdated, rfl⟩

/-- What is written into each column of a session. -/
lemma Session.toRow_eq_ok_iff {a : Session} {r : SessionRow} : a.toRow = .ok r ↔
    r.id = .ofUuid a.id ∧ r.projectId = .ofUuid a.projectId ∧ r.spaceId = .ofUuid? a.spaceId ∧
      r.configs = .ofObject a.configs ∧ Cell.ofInstant a.createdAt = .ok r.createdAt ∧
      Cell.ofInstant a.updatedAt = .ok r.updatedAt := by
  simp only [toRow, bind_eq_ok_iff, pure_eq_ok_iff]
  constructor
  · rintro ⟨createdAt, hcreated, updatedAt, hupdated, rfl⟩
    exact ⟨rfl, rfl, rfl, rfl, hcreated, hupdated⟩
  · rintro ⟨hid, hproject, hspace, hconfigs, hcreated, hupdated⟩
    exact ⟨_, hcreated, _, hupdated, by rw [← hid, ← hproject, ← hspace, ← hconfigs]⟩

/-- A session is read from its columns, one by one. -/
lemma SessionRow.read_eq_ok_iff {r : SessionRow} {a : Session} : r.read = .ok a ↔
    r.id.uuid? 0 = .ok a.id ∧ r.projectId.uuid? 1 = .ok a.projectId ∧
      r.spaceId.optionalUuid? 2 = .ok a.spaceId ∧
      r.configs.json? 3 Json.Reader.object = .ok a.configs ∧
      r.createdAt.instant? 4 = .ok a.createdAt ∧ r.updatedAt.instant? 5 = .ok a.updatedAt := by
  simp only [read, bind_eq_ok_iff, pure_eq_ok_iff]
  constructor
  · rintro ⟨id, hid, projectId, hproject, spaceId, hspace, configs, hconfigs, createdAt, hcreated,
      updatedAt, hupdated, rfl⟩
    exact ⟨hid, hproject, hspace, hconfigs, hcreated, hupdated⟩
  · rintro ⟨hid, hproject, hspace, hconfigs, hcreated, hupdated⟩
    exact ⟨_, hid, _, hproject, _, hspace, _, hconfigs, _, hcreated, _, hupdated, rfl⟩

/-- What is written into each column of a message. -/
lemma Message.toRow_eq_ok_iff {a : Message} {r : MessageRow} : a.toRow = .ok r ↔
    r.id = .ofUuid a.id ∧ r.sessionId = .ofUuid a.sessionId ∧ r.parentId = .ofUuid? a.parentId ∧
      r.role = .text a.role.name ∧ r.metadata = .ofObject a.metadata ∧ r.parts = .ofParts a.parts ∧
      r.taskId = .ofUuid? a.taskId ∧ r.processStatus = .text a.processStatus.name ∧
      Cell.ofInstant a.createdAt = .ok r.createdAt ∧
      Cell.ofInstant a.updatedAt = .ok r.updatedAt := by
  simp only [toRow, bind_eq_ok_iff, pure_eq_ok_iff]
  constructor
  · rintro ⟨createdAt, hcreated, updatedAt, hupdated, rfl⟩
    exact ⟨rfl, rfl, rfl, rfl, rfl, rfl, rfl, rfl, hcreated, hupdated⟩
  · rintro ⟨hid, hsession, hparent, hrole, hmetadata, hparts, htask, hstatus, hcreated, hupdated⟩
    exact ⟨_, hcreated, _, hupdated, by rw [← hid, ← hsession, ← hparent, ← hrole, ← hmetadata,
      ← hparts, ← htask, ← hstatus]⟩

/-- A message is read from its columns, one by one. -/
lemma MessageRow.read_eq_ok_iff {r : MessageRow} {a : Message} : r.read = .ok a ↔
    r.id.uuid? 0 = .ok a.id ∧ r.sessionId.uuid? 1 = .ok a.sessionId ∧
      r.parentId.optionalUuid? 2 = .ok a.parentId ∧ r.role.label? 3 MessageRole.parse = .ok a.role ∧
      r.metadata.json? 4 Json.Reader.object = .ok a.metadata ∧
      r.parts.json? 5 Part.listReader = .ok a.parts ∧ r.taskId.optionalUuid? 6 = .ok a.taskId ∧
      r.processStatus.label? 7 TaskStatus.parse = .ok a.processStatus ∧
      r.createdAt.instant? 8 = .ok a.createdAt ∧ r.updatedAt.instant? 9 = .ok a.updatedAt := by
  simp only [read, bind_eq_ok_iff, pure_eq_ok_iff]
  constructor
  · rintro ⟨id, hid, sessionId, hsession, parentId, hparent, role, hrole, metadata, hmetadata,
      parts, hparts, taskId, htask, processStatus, hstatus, createdAt, hcreated, updatedAt,
      hupdated, rfl⟩
    exact ⟨hid, hsession, hparent, hrole, hmetadata, hparts, htask, hstatus, hcreated, hupdated⟩
  · rintro ⟨hid, hsession, hparent, hrole, hmetadata, hparts, htask, hstatus, hcreated, hupdated⟩
    exact ⟨_, hid, _, hsession, _, hparent, _, hrole, _, hmetadata, _, hparts, _, htask,
      _, hstatus, _, hcreated, _, hupdated, rfl⟩

/-- What is written into each column of a task. -/
lemma Task.toRow_eq_ok_iff {a : Task} {r : TaskRow} : a.toRow = .ok r ↔
    r.id = .ofUuid a.id ∧ r.sessionId = .ofUuid a.sessionId ∧ r.order = .integer a.order ∧
      r.data = .ofObject a.data ∧ r.status = .text a.status.name ∧
      r.isPlanning = .ofBool a.isPlanning ∧ r.spaceDigested = .ofBool a.spaceDigested ∧
      Cell.ofInstant a.createdAt = .ok r.createdAt ∧
      Cell.ofInstant a.updatedAt = .ok r.updatedAt := by
  simp only [toRow, bind_eq_ok_iff, pure_eq_ok_iff]
  constructor
  · rintro ⟨createdAt, hcreated, updatedAt, hupdated, rfl⟩
    exact ⟨rfl, rfl, rfl, rfl, rfl, rfl, rfl, hcreated, hupdated⟩
  · rintro ⟨hid, hsession, horder, hdata, hstatus, hplanning, hdigested, hcreated, hupdated⟩
    exact ⟨_, hcreated, _, hupdated, by rw [← hid, ← hsession, ← horder, ← hdata, ← hstatus,
      ← hplanning, ← hdigested]⟩

/-- A task is read from its columns, one by one. -/
lemma TaskRow.read_eq_ok_iff {r : TaskRow} {a : Task} : r.read = .ok a ↔
    r.id.uuid? 0 = .ok a.id ∧ r.sessionId.uuid? 1 = .ok a.sessionId ∧
      r.order.integer? 2 = .ok a.order ∧ r.data.json? 3 Json.Reader.object = .ok a.data ∧
      r.status.label? 4 TaskStatus.parse = .ok a.status ∧ r.isPlanning.bool? 5 = .ok a.isPlanning ∧
      r.spaceDigested.bool? 6 = .ok a.spaceDigested ∧ r.createdAt.instant? 7 = .ok a.createdAt ∧
      r.updatedAt.instant? 8 = .ok a.updatedAt := by
  simp only [read, bind_eq_ok_iff, pure_eq_ok_iff]
  constructor
  · rintro ⟨id, hid, sessionId, hsession, order, horder, data, hdata, status, hstatus, isPlanning,
      hplanning, spaceDigested, hdigested, createdAt, hcreated, updatedAt, hupdated, rfl⟩
    exact ⟨hid, hsession, horder, hdata, hstatus, hplanning, hdigested, hcreated, hupdated⟩
  · rintro ⟨hid, hsession, horder, hdata, hstatus, hplanning, hdigested, hcreated, hupdated⟩
    exact ⟨_, hid, _, hsession, _, horder, _, hdata, _, hstatus, _, hplanning, _, hdigested,
      _, hcreated, _, hupdated, rfl⟩

/-- What is written into each column of a disk. -/
lemma Disk.toRow_eq_ok_iff {a : Disk} {r : DiskRow} : a.toRow = .ok r ↔
    r.id = .ofUuid a.id ∧ r.projectId = .ofUuid a.projectId ∧
      Cell.ofInstant a.createdAt = .ok r.createdAt ∧
      Cell.ofInstant a.updatedAt = .ok r.updatedAt := by
  simp only [toRow, bind_eq_ok_iff, pure_eq_ok_iff]
  constructor
  · rintro ⟨createdAt, hcreated, updatedAt, hupdated, rfl⟩
    exact ⟨rfl, rfl, hcreated, hupdated⟩
  · rintro ⟨hid, hproject, hcreated, hupdated⟩
    exact ⟨_, hcreated, _, hupdated, by rw [← hid, ← hproject]⟩

/-- A disk is read from its columns, one by one. -/
lemma DiskRow.read_eq_ok_iff {r : DiskRow} {a : Disk} : r.read = .ok a ↔
    r.id.uuid? 0 = .ok a.id ∧ r.projectId.uuid? 1 = .ok a.projectId ∧
      r.createdAt.instant? 2 = .ok a.createdAt ∧ r.updatedAt.instant? 3 = .ok a.updatedAt := by
  simp only [read, bind_eq_ok_iff, pure_eq_ok_iff]
  constructor
  · rintro ⟨id, hid, projectId, hproject, createdAt, hcreated, updatedAt, hupdated, rfl⟩
    exact ⟨hid, hproject, hcreated, hupdated⟩
  · rintro ⟨hid, hproject, hcreated, hupdated⟩
    exact ⟨_, hid, _, hproject, _, hcreated, _, hupdated, rfl⟩

end Colloquy
