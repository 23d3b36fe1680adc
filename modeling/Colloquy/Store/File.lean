import Colloquy.Json.Fields
import Colloquy.Store

/-!
# The store as a file

A store is kept in a file as a JSON object with a field for each table and its version: a table is
the array of its rows, and a row the array of its cells. `Store.toText` writes the file and
`Store.ofText?` reads it.
-/

namespace Colloquy

open Json (Document Reader fields?)

namespace Cell

/-- Writes a cell. -/
def toDocument : Cell → Document
  | .null => .null
  | .integer n => .int n
  | .text s => .text s

/-- Reads a cell. -/
def read : Reader Cell
  | _, .null => some .null
  | _, .string (some s) => some (.text s)
  | levels, d => (Reader.int64 levels d).map .integer

end Cell

/-- The cells of a space, in the order of the columns. -/
def SpaceRow.cells (r : SpaceRow) : List Cell :=
  [r.id, r.projectId, r.configs, r.createdAt, r.updatedAt]

/-- The space with the given cells. -/
def SpaceRow.ofCells? : List Cell → Option SpaceRow
  | [id, projectId, configs, createdAt, updatedAt] =>
    some { id, projectId, configs, createdAt, updatedAt }
  | _ => none

/-- The cells of a session, in the order of the columns. -/
def SessionRow.cells (r : SessionRow) : List Cell :=
  [r.id, r.projectId, r.spaceId, r.configs, r.createdAt, r.updatedAt]

/-- The session with the given cells. -/
def SessionRow.ofCells? : List Cell → Option SessionRow
  | [id, projectId, spaceId, configs, createdAt, updatedAt] =>
    some { id, projectId, spaceId, configs, createdAt, updatedAt }
  | _ => none

/-- The cells of a message, in the order of the columns. -/
def MessageRow.cells (r : MessageRow) : List Cell :=
  [r.id, r.sessionId, r.parentId, r.role, r.metadata, r.parts, r.taskId, r.processStatus,
    r.createdAt, r.updatedAt]

/-- The message with the given cells. -/
def MessageRow.ofCells? : List Cell → Option MessageRow
  | [id, sessionId, parentId, role, metadata, parts, taskId, processStatus, createdAt, updatedAt] =>
    some { id, sessionId, parentId, role, metadata, parts, taskId, processStatus, createdAt,
           updatedAt }
  | _ => none

/-- The cells of a task, in the order of the columns. -/
def TaskRow.cells (r : TaskRow) : List Cell :=
  [r.id, r.sessionId, r.order, r.data, r.status, r.isPlanning, r.spaceDigested, r.createdAt,
    r.updatedAt]

/-- The task with the given cells. -/
def TaskRow.ofCells? : List Cell → Option TaskRow
  | [id, sessionId, order, data, status, isPlanning, spaceDigested, createdAt, updatedAt] =>
    some { id, sessionId, order, data, status, isPlanning, spaceDigested, createdAt, updatedAt }
  | _ => none

/-- The cells of a disk, in the order of the columns. -/
def DiskRow.cells (r : DiskRow) : List Cell :=
  [r.id, r.projectId, r.createdAt, r.updatedAt]

/-- The disk with the given cells. -/
def DiskRow.ofCells? : List Cell → Option DiskRow
  | [id, projectId, createdAt, updatedAt] => some { id, projectId, createdAt, updatedAt }
  | _ => none

namespace Store

/-- Writes a table. -/
def tableToDocument {ρ : Type} (cells : ρ → List Cell) (rows : List ρ) : Document :=
  .array (rows.map fun r => .array ((cells r).map Cell.toDocument))

/-- Reads a table. -/
def tableReader {ρ : Type} (ofCells? : List Cell → Option ρ) : Reader (List ρ) :=
  Reader.list fun levels d => (Reader.list Cell.read levels d).bind ofCells?

/-- Writes a store. -/
def toDocument (s : Store) : Document :=
  .record [
    ("version", .int s.version),
    ("spaces", tableToDocument SpaceRow.cells s.spaces),
    ("sessions", tableToDocument SessionRow.cells s.sessions),
    ("messages", tableToDocument MessageRow.cells s.messages),
    ("tasks", tableToDocument TaskRow.cells s.tasks),
    ("disks", tableToDocument DiskRow.cells s.disks)]

/-- Reads a store. -/
def read : Reader Store := fun levels d => do
  let f ← fields? ["version", "spaces", "sessions", "messages", "tasks", "disks"] levels d
  return {
    version := ← f.required "version" Reader.int64
    spaces := ← f.required "spaces" (tableReader SpaceRow.ofCells?)
    sessions := ← f.required "sessions" (tableReader SessionRow.ofCells?)
    messages := ← f.required "messages" (tableReader MessageRow.ofCells?)
    tasks := ← f.required "tasks" (tableReader TaskRow.ofCells?)
    disks := ← f.required "disks" (tableReader DiskRow.ofCells?) }

/-- The content of the file of a store. -/
def toText (s : Store) : String :=
  s.toDocument.compact

/-- The store with the given file. -/
def ofText? (text : String) : Option Store :=
  (Document.ofString? text).bind (read Json.maxLevels)

end Store

end Colloquy
