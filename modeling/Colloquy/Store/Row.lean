import Colloquy.Json.Printer
import Colloquy.Paging.Key
import Colloquy.Record.Format
import Colloquy.Store.Error

/-!
# Stored rows

Every kind of record has a row of cells. `Space.toRow` and its like write a record into a row,
which fails only if a time does not fit; `SpaceRow.read` and its like read a row column by column
and stop at the first column that cannot be read.
-/

namespace Colloquy

/-- The row of a space. -/
structure SpaceRow where
  id : Cell
  projectId : Cell
  configs : Cell
  createdAt : Cell
  updatedAt : Cell
  deriving DecidableEq

/-- The row of a session. -/
structure SessionRow where
  id : Cell
  projectId : Cell
  spaceId : Cell
  configs : Cell
  createdAt : Cell
  updatedAt : Cell
  deriving DecidableEq

/-- The row of a message. -/
structure MessageRow where
  id : Cell
  sessionId : Cell
  parentId : Cell
  role : Cell
  metadata : Cell
  parts : Cell
  taskId : Cell
  processStatus : Cell
  createdAt : Cell
  updatedAt : Cell
  deriving DecidableEq

/-- The row of a task. -/
structure TaskRow where
  id : Cell
  sessionId : Cell
  order : Cell
  data : Cell
  status : Cell
  isPlanning : Cell
  spaceDigested : Cell
  createdAt : Cell
  updatedAt : Cell
  deriving DecidableEq

/-- The row of a disk. -/
structure DiskRow where
  id : Cell
  projectId : Cell
  createdAt : Cell
  updatedAt : Cell
  deriving DecidableEq

/-- Rows that hold records of one kind and are listed by creation time and id. -/
class Row (ρ : Type) (α : outParam Type) where
  id : ρ → Cell
  createdAt : ρ → Cell
  read : ρ → Except ColumnFault α

/-! ### Writing -/

/-- The cell of a time. -/
def Cell.ofInstant (t : Instant) : Except StoreError Cell :=
  match t.nanos? with
  | some n => .ok (.integer n)
  | none => .error (.timestamp t)

/-- The cell of a free object. -/
def Cell.ofObject (fields : JsonObject) : Cell :=
  .text (Json.objectToDocument fields).compact

/-- The cell of the parts of a message. -/
def Cell.ofParts (parts : List Part) : Cell :=
  .text (Part.listToDocument parts).compact

/-- The row of a space. -/
def Space.toRow (s : Space) : Except StoreError SpaceRow := do
  return {
    id := .ofUuid s.id
    projectId := .ofUuid s.projectId
    configs := .ofObject s.configs
    createdAt := ← Cell.ofInstant s.createdAt
    updatedAt := ← Cell.ofInstant s.updatedAt }

/-- The row of a session. -/
def Session.toRow (s : Session) : Except StoreError SessionRow := do
  return {
    id := .ofUuid s.id
    projectId := .ofUuid s.projectId
    spaceId := .ofUuid? s.spaceId
    configs := .ofObject s.configs
    createdAt := ← Cell.ofInstant s.createdAt
    updatedAt := ← Cell.ofInstant s.updatedAt }

/-- The row of a message. -/
def Message.toRow (m : Message) : Except StoreError MessageRow := do
  return {
    id := .ofUuid m.id
    sessionId := .ofUuid m.sessionId
    parentId := .ofUuid? m.parentId
    role := .text m.role.name
    metadata := .ofObject m.metadata
    parts := .ofParts m.parts
    taskId := .ofUuid? m.taskId
    processStatus := .text m.processStatus.name
    createdAt := ← Cell.ofInstant m.createdAt
    updatedAt := ← Cell.ofInstant m.updatedAt }

/-- The row of a task. -/
def Task.toRow (t : Task) : Except StoreError TaskRow := do
  return {
    id := .ofUuid t.id
    sessionId := .ofUuid t.sessionId
    order := .integer t.order
    data := .ofObject t.data
    status := .text t.status.name
    isPlanning := .ofBool t.isPlanning
    spaceDigested := .ofBool t.spaceDigested
    createdAt := ← Cell.ofInstant t.createdAt
    updatedAt := ← Cell.ofInstant t.updatedAt }

/-- The row of a disk. -/
def Disk.toRow (d : Disk) : Except StoreError DiskRow := do
  return {
    id := .ofUuid d.id
    projectId := .ofUuid d.projectId
    createdAt := ← Cell.ofInstant d.createdAt
    updatedAt := ← Cell.ofInstant d.updatedAt }

/-! ### Reading -/

/-- Reads a space. -/
def SpaceRow.read (r : SpaceRow) : Except ColumnFault Space := do
  return {
    id := ← r.id.uuid? 0
    projectId := ← r.projectId.uuid? 1
    configs := ← r.configs.json? 2 Json.Reader.object
    createdAt := ← r.createdAt.instant? 3
    updatedAt := ← r.updatedAt.instant? 4 }

/-- Reads a session. -/
def SessionRow.read (r : SessionRow) : Except ColumnFault Session := do
  return {
    id := ← r.id.uuid? 0
    projectId := ← r.projectId.uuid? 1
    spaceId := ← r.spaceId.optionalUuid? 2
    configs := ← r.configs.json? 3 Json.Reader.object
    createdAt := ← r.createdAt.instant? 4
    updatedAt := ← r.updatedAt.instant? 5 }

/-- Reads a message. -/
def MessageRow.read (r : MessageRow) : Except ColumnFault Message := do
  return {
    id := ← r.id.uuid? 0
    sessionId := ← r.sessionId.uuid? 1
    parentId := ← r.parentId.optionalUuid? 2
    role := ← r.role.label? 3 MessageRole.parse
    metadata := ← r.metadata.json? 4 Json.Reader.object
    parts := ← r.parts.json? 5 Part.listReader
    taskId := ← r.taskId.optionalUuid? 6
    processStatus := ← r.processStatus.label? 7 TaskStatus.parse
    createdAt := ← r.createdAt.instant? 8
    updatedAt := ← r.updatedAt.instant? 9 }

/-- Reads a task. -/
def TaskRow.read (r : TaskRow) : Except ColumnFault Task := do
  return {
    id := ← r.id.uuid? 0
    sessionId := ← r.sessionId.uuid? 1
    order := ← r.order.integer? 2
    data := ← r.data.json? 3 Json.Reader.object
    status := ← r.status.label? 4 TaskStatus.parse
    isPlanning := ← r.isPlanning.bool? 5
    spaceDigested := ← r.spaceDigested.bool? 6
    createdAt := ← r.createdAt.instant? 7
    updatedAt := ← r.updatedAt.instant? 8 }

/-- Reads a disk. -/
def DiskRow.read (r : DiskRow) : Except ColumnFault Disk := do
  return {
    id := ← r.id.uuid? 0
    projectId := ← r.projectId.uuid? 1
    createdAt := ← r.createdAt.instant? 2
    updatedAt := ← r.updatedAt.instant? 3 }

instance : Row SpaceRow Space := ⟨SpaceRow.id, SpaceRow.createdAt, SpaceRow.read⟩
instance : Row SessionRow Session := ⟨SessionRow.id, SessionRow.createdAt, SessionRow.read⟩
instance : Row MessageRow Message := ⟨MessageRow.id, MessageRow.createdAt, MessageRow.read⟩
instance : Row TaskRow Task := ⟨TaskRow.id, TaskRow.createdAt, TaskRow.read⟩
instance : Row DiskRow Disk := ⟨DiskRow.id, DiskRow.createdAt, DiskRow.read⟩

end Colloquy
