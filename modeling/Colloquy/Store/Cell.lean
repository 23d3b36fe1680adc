import Colloquy.Json.Reader
import Colloquy.Label
import Colloquy.Uuid
import Colloquy.Instant

/-!
# Cells of stored rows

A stored row is made of cells: nothing, a whole number, or a text. Ids, labels and JSON are kept as
texts and times as counts of nanoseconds. What a cell holds may turn out not to be what its column
should hold; reading it then fails and names the column (`ColumnFault`).
-/

namespace Colloquy

/-- The content of a column in a stored row. -/
inductive Cell where
  | null
  | integer (n : Int)
  | text (s : String)
  deriving DecidableEq

/-- Why a cell cannot be read. -/
inductive Unreadable where
  /-- The text is not the form of any value of the column. -/
  | conversion
  /-- The cell is not of the type that the column asks for. -/
  | columnType
  deriving DecidableEq, Repr

/-- A column, counted from zero, that cannot be read. -/
structure ColumnFault where
  column : Nat
  cause : Unreadable
  deriving DecidableEq, Repr

namespace Cell

/-- Nothing comes before numbers, and numbers before texts. -/
def order : Cell → Cell → Ordering
  | .null, .null => .eq
  | .null, _ => .lt
  | _, .null => .gt
  | .integer a, .integer b => compare a b
  | .integer _, .text _ => .lt
  | .text _, .integer _ => .gt
  | .text a, .text b => compare a b

/-- How two cells compare in a condition: a cell without content compares with nothing. -/
def compare? : Cell → Cell → Option Ordering
  | .null, _ => none
  | _, .null => none
  | a, b => some (order a b)

/-- Whether two cells meet a comparison operator in a condition. -/
def meets (operator : String) (a b : Cell) : Bool :=
  match compare? a b with
  | none => false
  | some o =>
    match operator with
    | "<" => o == .lt
    | ">" => o == .gt
    | "=" => o == .eq
    | _ => false

/-- The cell of an id. -/
def ofUuid (id : Uuid) : Cell := .text id.text

/-- The cell of a reference that may be absent. -/
def ofUuid? : Option Uuid → Cell
  | some id => ofUuid id
  | none => .null

/-- The cell of a truth value. -/
def ofBool (b : Bool) : Cell := .integer (if b then 1 else 0)

/-! ### Reading -/

/-- The text of a cell in the given column. -/
def text? (column : Nat) : Cell → Except ColumnFault String
  | .text s => .ok s
  | _ => .error ⟨column, .columnType⟩

/-- The number of a cell in the given column. -/
def integer? (column : Nat) : Cell → Except ColumnFault Int
  | .integer n => .ok n
  | _ => .error ⟨column, .columnType⟩

/-- Reads the text of a cell with a reader of values. -/
def convert? {α : Type} (column : Nat) (read : String → Option α) (c : Cell) :
    Except ColumnFault α :=
  match c.text? column with
  | .error e => .error e
  | .ok s =>
    match read s with
    | some v => .ok v
    | none => .error ⟨column, .conversion⟩

/-- The id in a cell. -/
def uuid? (column : Nat) (c : Cell) : Except ColumnFault Uuid :=
  c.convert? column Uuid.read?

/-- The reference in a cell, if there is one. -/
def optionalUuid? (column : Nat) (c : Cell) : Except ColumnFault (Option Uuid) :=
  match c with
  | .null => .ok none
  | c => (c.uuid? column).map some

/-- The value of a JSON text in a cell. -/
def json? {α : Type} (column : Nat) (read : Json.Reader α) (c : Cell) : Except ColumnFault α :=
  c.convert? column fun s => (Json.Document.ofString? s).bind (read Json.maxLevels)

/-- The label in a cell. -/
def label? {α : Type} (column : Nat) (parse : String → Except UnknownLabel α) (c : Cell) :
    Except ColumnFault α :=
  c.convert? column fun s => (parse s).toOption

/-- The instant in a cell. -/
def instant? (column : Nat) (c : Cell) : Except ColumnFault Instant :=
  match c.integer? column with
  | .error e => .error e
  | .ok n =>
    match Instant.ofNanos? n with
    | some t => .ok t
    | none => .error ⟨column, .columnType⟩

/-- The truth value in a cell: every number but zero counts as true. -/
def bool? (column : Nat) (c : Cell) : Except ColumnFault Bool :=
  (c.integer? column).map (· != 0)

end Cell

end Colloquy
