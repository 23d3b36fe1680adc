import Colloquy.Record

/-!
# JSON form of records

Every record is written with its fields in declared order and read back from an object or an array.
Optional references are written as `null` when they are absent.
-/

namespace Colloquy

open Json (Document Reader fields?)

namespace Uuid

/-- Writes an identifier. -/
def toDocument (id : Uuid) : Document := .text id.text

/-- Reads an identifier. -/
def reader : Reader Uuid := fun levels d => (Reader.text levels d).bind read?

/-- Writes a reference that may be absent. -/
def optionToDocument : Option Uuid → Document
  | some id => id.toDocument
  | none => .null

end Uuid

namespace Instant

/-- Writes an instant. -/
def toDocument (t : Instant) : Document := .text t.text

/-- Reads an instant. -/
def reader : Reader Instant := fun levels d => (Reader.text levels d).bind read?

end Instant

namespace Space

/-- Writes a space. -/
def toDocument (s : Space) : Document :=
  .record [("id", s.id.toDocument), ("project_id", s.projectId.toDocument),
    ("configs", Json.objectToDocument s.configs), ("created_at", s.createdAt.toDocument),
    ("updated_at", s.updatedAt.toDocument)]

/-- Reads a space. -/
def read : Reader Space := fun levels d => do
  let f ← fields? ["id", "project_id", "configs", "created_at", "updated_at"] levels d
  return {
    id := ← f.required "id" Uuid.reader
    projectId := ← f.required "project_id" Uuid.reader
    configs := ← f.withDefault "configs" [] Reader.object
    createdAt := ← f.required "created_at" Instant.reader
    updatedAt := ← f.required "updated_at" Instant.reader }

end Space

namespace Session

/-- Writes a session. -/
def toDocument (s : Session) : Document :=
  .record [("id", s.id.toDocument), ("project_id", s.projectId.toDocument),
    ("space_id", Uuid.optionToDocument s.spaceId), ("configs", Json.objectToDocument s.configs),
    ("created_at", s.createdAt.toDocument), ("updated_at", s.updatedAt.toDocument)]

/-- Reads a session. -/
def read : Reader Session := fun levels d => do
  let f ← fields? ["id", "project_id", "space_id", "configs", "created_at", "updated_at"] levels d
  return {
    id := ← f.required "id" Uuid.reader
    projectId := ← f.required "project_id" Uuid.reader
    spaceId := ← f.withDefault "space_id" none (Reader.optional Uuid.reader)
    configs := ← f.withDefault "configs" [] Reader.object
    createdAt := ← f.required "created_at" Instant.reader
    updatedAt := ← f.required "updated_at" Instant.reader }

end Session

namespace Part

/-- Writes the parts of a message. -/
def listToDocument (parts : List Part) : Document := .array (parts.map toDocument)

/-- Reads the parts of a message. -/
def listReader : Reader (List Part) := Reader.list read

end Part

namespace Message

/-- Writes a message. -/
def toDocument (m : Message) : Document :=
  .record [("id", m.id.toDocument), ("session_id", m.sessionId.toDocument),
    ("parent_id", Uuid.optionToDocument m.parentId), ("role", .text m.role.name),
    ("meta", Json.objectToDocument m.metadata), ("parts", Part.listToDocument m.parts),
    ("task_id", Uuid.optionToDocument m.taskId),
    ("session_task_process_status", .text m.processStatus.name),
    ("created_at", m.createdAt.toDocument), ("updated_at", m.updatedAt.toDocument)]

/-- Reads a message. -/
def read : Reader Message := fun levels d => do
  let f ← fields? ["id", "session_id", "parent_id", "role", "meta", "parts", "task_id",
    "session_task_process_status", "created_at", "updated_at"] levels d
  return {
    id := ← f.required "id" Uuid.reader
    sessionId := ← f.required "session_id" Uuid.reader
    parentId := ← f.withDefault "parent_id" none (Reader.optional Uuid.reader)
    role := ← f.required "role" MessageRole.read
    metadata := ← f.withDefault "meta" [] Reader.object
    parts := ← f.required "parts" Part.listReader
    taskId := ← f.withDefault "task_id" none (Reader.optional Uuid.reader)
    processStatus := ← f.withDefault "session_task_process_status" .pending TaskStatus.read
    createdAt := ← f.required "created_at" Instant.reader
    updatedAt := ← f.required "updated_at" Instant.reader }

end Message

namespace Task

/-- Writes a task. -/
def toDocument (t : Task) : Document :=
  .record [("id", t.id.toDocument), ("session_id", t.sessionId.toDocument),
    ("order", .int t.order), ("data", Json.objectToDocument t.data),
    ("status", .text t.status.name), ("is_planning", .bool t.isPlanning),
    ("space_digested", .bool t.spaceDigested), ("created_at", t.createdAt.toDocument),
    ("updated_at", t.updatedAt.toDocument)]

/-- Reads a task. -/
def read : Reader Task := fun levels d => do
  let f ← fields? ["id", "session_id", "order", "data", "status", "is_planning", "space_digested",
    "created_at", "updated_at"] levels d
  return {
    id := ← f.required "id" Uuid.reader
    sessionId := ← f.required "session_id" Uuid.reader
    order := ← f.required "order" Reader.int64
    data := ← f.withDefault "data" [] Reader.object
    status := ← f.withDefault "status" .pending TaskStatus.read
    isPlanning := ← f.withDefault "is_planning" false Reader.bool
    spaceDigested := ← f.withDefault "space_digested" false Reader.bool
    createdAt := ← f.required "created_at" Instant.reader
    updatedAt := ← f.required "updated_at" Instant.reader }

end Task

namespace Disk

/-- Writes a disk. -/
def toDocument (d : Disk) : Document :=
  .record [("id", d.id.toDocument), ("project_id", d.projectId.toDocument),
    ("created_at", d.createdAt.toDocument), ("updated_at", d.updatedAt.toDocument)]

/-- Reads a disk. -/
def read : Reader Disk := fun levels d => do
  let f ← fields? ["id", "project_id", "created_at", "updated_at"] levels d
  return {
    id := ← f.required "id" Uuid.reader
    projectId := ← f.required "project_id" Uuid.reader
    createdAt := ← f.required "created_at" Instant.reader
    updatedAt := ← f.required "updated_at" Instant.reader }

end Disk

namespace LearningStatus

/-- Writes the counts. -/
def toDocument (s : LearningStatus) : Document :=
  .record [("space_digested_count", .int s.digested),
    ("not_space_digested_count", .int s.notDigested)]

/-- Reads the counts. -/
def read : Reader LearningStatus := fun levels d => do
  let f ← fields? ["space_digested_count", "not_space_digested_count"] levels d
  return {
    digested := ← f.required "space_digested_count" Reader.nat64
    notDigested := ← f.required "not_space_digested_count" Reader.nat64 }

end LearningStatus

namespace MessageInserted

/-- Writes an announcement. -/
def toDocument (e : MessageInserted) : Document :=
  .record [("project_id", e.projectId.toDocument), ("session_id", e.sessionId.toDocument),
    ("message_id", e.messageId.toDocument)]

/-- Reads an announcement. -/
def read : Reader MessageInserted := fun levels d => do
  let f ← fields? ["project_id", "session_id", "message_id"] levels d
  return {
    projectId := ← f.required "project_id" Uuid.reader
    sessionId := ← f.required "session_id" Uuid.reader
    messageId := ← f.required "message_id" Uuid.reader }

end MessageInserted

namespace SendMessage

/-- Writes a request. -/
def toDocument (m : SendMessage) : Document :=
  .record [("project_id", m.projectId.toDocument), ("session_id", m.sessionId.toDocument),
    ("role", .text m.role.name), ("parts", Part.listToDocument m.parts),
    ("meta", Json.objectToDocument m.metadata)]

/-- Reads a request. -/
def read : Reader SendMessage := fun levels d => do
  let f ← fields? ["project_id", "session_id", "role", "parts", "meta"] levels d
  return {
    projectId := ← f.required "project_id" Uuid.reader
    sessionId := ← f.required "session_id" Uuid.reader
    role := ← f.required "role" MessageRole.read
    parts := ← f.required "parts" Part.listReader
    metadata := ← f.withDefault "meta" [] Reader.object }

end SendMessage

end Colloquy
