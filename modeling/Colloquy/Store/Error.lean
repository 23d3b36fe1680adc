import Colloquy.Instant.Format
import Colloquy.Paging.Error
import Colloquy.Store.Cell

/-!
# What can go wrong in the store

A `StoreError` names the cause of a refused operation, and `StoreError.message` words it.
-/

namespace Colloquy

/-- The kinds of records that callers address by id. -/
inductive Entity where
  | space
  | session
  | task
  | disk
  deriving DecidableEq, Repr

/-- The name of a kind of record. -/
def Entity.name : Entity → String
  | .space => "space"
  | .session => "session"
  | .task => "task"
  | .disk => "disk"

/-- The wording for an id that names no record. -/
def Entity.notFound (entity : Entity) (id : Uuid) : String :=
  entity.name ++ " " ++ id.text ++ " not found"

/-- What a row violates. -/
inductive Violation where
  /-- Another row has the same values in these columns. -/
  | unique (table : String) (columns : List String)
  /-- A reference names no row. -/
  | foreignKey
  | notNull (table column : String)
  /-- Deletions that follow from one another are nested too deeply. -/
  | nesting
  deriving DecidableEq, Repr

/-- The wording of each violation. -/
def Violation.message : Violation → String
  | .unique table columns =>
    "UNIQUE constraint failed: " ++ ", ".intercalate (columns.map fun c => table ++ "." ++ c)
  | .foreignKey => "FOREIGN KEY constraint failed"
  | .notNull table column => "NOT NULL constraint failed: " ++ table ++ "." ++ column
  | .nesting => "too many levels of trigger recursion"

/-- Why the store refuses an operation. -/
inductive StoreError where
  | violation (cause : Violation)
  | unreadable (fault : ColumnFault)
  /-- The time is not a signed 64-bit count of nanoseconds. -/
  | timestamp (t : Instant)
  | paging (e : PagingError)
  | notFound (entity : Entity) (id : Uuid)
  | unsupportedVersion (found supported : Int)
  deriving DecidableEq

namespace StoreError

/-- The wording of each error. A row that cannot be read is described by its column. -/
def message : StoreError → String
  | .violation cause => "sqlite error: " ++ cause.message
  | .unreadable fault => s!"sqlite error: column {fault.column}"
  | .timestamp t => "timestamp error: " ++ t.display ++ " is outside the storable range"
  | .paging e => "paging error: " ++ e.message
  | .notFound entity id => entity.notFound id
  | .unsupportedVersion found supported =>
    s!"unsupported schema version {found}, max supported {supported}"

end StoreError

end Colloquy
