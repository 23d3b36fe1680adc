import Colloquy.Store

/-!
# Overwriting single cells

`Store.overwrite` writes one column of the row with a given id, past the checks on labels and
references, as somebody would who repairs or damages a store by hand. A column takes a value as its
kind: a column of texts keeps a number as its decimal text, and a column of numbers keeps the text
of a number as that number. Columns that must not be empty and columns that are unique stay so.
-/

namespace Colloquy

/-- A column of a table. -/
structure Column (ρ : Type) where
  name : String
  /-- Whether the column is one of numbers, and not of texts. -/
  numeric : Bool := false
  nullable : Bool := false
  set : Cell → ρ → ρ

/-- The columns of spaces, in order. -/
def SpaceRow.columns : List (Column SpaceRow) := [
  { name := "id", nullable := true, set := fun c r => { r with id := c } },
  { name := "project_id", set := fun c r => { r with projectId := c } },
  { name := "configs_json", set := fun c r => { r with configs := c } },
  { name := "created_at_ns", numeric := true, set := fun c r => { r with createdAt := c } },
  { name := "updated_at_ns", numeric := true, set := fun c r => { r with updatedAt := c } }]

/-- The columns of sessions, in order. -/
def SessionRow.columns : List (Column SessionRow) := [
  { name := "id", nullable := true, set := fun c r => { r with id := c } },
  { name := "project_id", set := fun c r => { r with projectId := c } },
  { name := "space_id", nullable := true, set := fun c r => { r with spaceId := c } },
  { name := "configs_json", set := fun c r => { r with configs := c } },
  { name := "created_at_ns", numeric := true, set := fun c r => { r with createdAt := c } },
  { name := "updated_at_ns", numeric := true, set := fun c r => { r with updatedAt := c } }]

/-- The columns of messages, in order. -/
def MessageRow.columns : List (Column MessageRow) := [
  { name := "id", nullable := true, set := fun c r => { r with id := c } },
  { name := "session_id", set := fun c r => { r with sessionId := c } },
  { name := "parent_id", nullable := true, set := fun c r => { r with parentId := c } },
  { name := "role", set := fun c r => { r with role := c } },
  { name := "meta_json", set := fun c r => { r with metadata := c } },
  { name := "parts_json", set := fun c r => { r with parts := c } },
  { name := "task_id", nullable := true, set := fun c r => { r with taskId := c } },
  { name := "process_status", set := fun c r => { r with processStatus := c } },
  { name := "created_at_ns", numeric := true, set := fun c r => { r with createdAt := c } },
  { name := "updated_at_ns", numeric := true, set := fun c r => { r with updatedAt := c } }]

/-- The columns of tasks, in order. -/
def TaskRow.columns : List (Column TaskRow) := [
  { name := "id", nullable := true, set := fun c r => { r with id := c } },
  { name := "session_id", set := fun c r => { r with sessionId := c } },
  { name := "task_order", numeric := true, set := fun c r => { r with order := c } },
  { name := "data_json", set := fun c r => { r with data := c } },
  { name := "status", set := fun c r => { r with status := c } },
  { name := "is_planning", numeric := true, set := fun c r => { r with isPlanning := c } },
  { name := "space_digested", numeric := true, set := fun c r => { r with spaceDigested := c } },
  { name := "created_at_ns", numeric := true, set := fun c r => { r with createdAt := c } },
  { name := "updated_at_ns", numeric := true, set := fun c r => { r with updatedAt := c } }]

/-- The columns of disks, in order. -/
def DiskRow.columns : List (Column DiskRow) := [
  { name := "id", nullable := true, set := fun c r => { r with id := c } },
  { name := "project_id", set := fun c r => { r with projectId := c } },
  { name := "created_at_ns", numeric := true, set := fun c r => { r with createdAt := c } },
  { name := "updated_at_ns", numeric := true, set := fun c r => { r with updatedAt := c } }]

namespace Cell

/-- Blanks that may stand around a number in a text. -/
def isBlank (c : Char) : Bool :=
  c == ' ' || ('\t' ≤ c && c ≤ '\r')

/-- The signed 64-bit integer that a text writes, if it writes one. -/
def integerOfText? (s : String) : Option Int :=
  let inner := (s.toList.dropWhile isBlank).reverse.dropWhile isBlank
  match Decimal.readInt64 inner.reverse with
  | .ok n => some n.1
  | .error _ => none

/-- The form in which a column of numbers keeps a value. -/
def toNumeric : Cell → Cell
  | .text s =>
    match integerOfText? s with
    | some n => .integer n
    | none => .text s
  | c => c

/-- The form in which a column of texts keeps a value. -/
def toTextual : Cell → Cell
  | .integer n => .text (String.ofList (Decimal.ofInt n))
  | c => c

end Cell

/-- The form in which a column keeps a value. -/
def Column.adapt {ρ : Type} (column : Column ρ) (value : Cell) : Cell :=
  if column.numeric then value.toNumeric else value.toTextual

namespace Store

/-- Writes a column of the row with the given id, and counts the rows that were written. Nothing
happens if no row has the id; `clash` gives the columns in which two rows must not agree. -/
def overwriteIn {ρ α : Type} [Row ρ α] (table : String) (clash : ρ → ρ → Option (List String))
    (column : Column ρ) (id : String) (value : Cell) (rows : List ρ) :
    Except StoreError (List ρ × Nat) :=
  let (hit, others) := rows.partition fun r => Row.id r == .text id
  let value := column.adapt value
  if hit.isEmpty then .ok (rows, 0)
  else if value = .null && !column.nullable then
    .error (.violation (.notNull table column.name))
  else
    match (hit.map (column.set value)).findSome? fun r => others.findSome? (clash r) with
    | some columns => .error (.violation (.unique table columns))
    | none =>
      .ok (rows.map fun r => if Row.id r == .text id then column.set value r else r, hit.length)

/-- Two rows clash if they have the same id. -/
def sameId {ρ α : Type} [Row ρ α] (a b : ρ) : Option (List String) :=
  if Row.id a != .null && Row.id a == Row.id b then some ["id"] else none

/-- Two tasks clash if they have the same id, or the same place in the same session. -/
def sameTask (a b : TaskRow) : Option (List String) :=
  if a.sessionId == b.sessionId && a.order == b.order then some ["session_id", "task_order"]
  else sameId a b

/-- Writes one column of the row with the given id, past the checks on labels and references. There
is no answer if the table or the column does not exist. -/
def overwrite (s : Store) (table column id : String) (value : Cell) :
    Option (Except StoreError (Store × Nat)) :=
  match table with
  | "spaces" => (SpaceRow.columns.find? (·.name == column)).map fun c => do
    let (spaces, n) ← overwriteIn table sameId c id value s.spaces
    return ({ s with spaces }, n)
  | "sessions" => (SessionRow.columns.find? (·.name == column)).map fun c => do
    let (sessions, n) ← overwriteIn table sameId c id value s.sessions
    return ({ s with sessions }, n)
  | "messages" => (MessageRow.columns.find? (·.name == column)).map fun c => do
    let (messages, n) ← overwriteIn table sameId c id value s.messages
    return ({ s with messages }, n)
  | "tasks" => (TaskRow.columns.find? (·.name == column)).map fun c => do
    let (tasks, n) ← overwriteIn table sameTask c id value s.tasks
    return ({ s with tasks }, n)
  | "disks" => (DiskRow.columns.find? (·.name == column)).map fun c => do
    let (disks, n) ← overwriteIn table sameId c id value s.disks
    return ({ s with disks }, n)
  | _ => none

/-- Writes the version of the layout; a number that is no signed 32-bit integer counts as zero. -/
def overwriteVersion (s : Store) (version : Int) : Store :=
  { s with version := if -2147483648 ≤ version ∧ version ≤ 2147483647 then version else 0 }

end Store

end Colloquy
