import Colloquy.Binary64.Shortest
import Colloquy.Json.Document

/-!
# Free JSON values

A `Json` is what callers may put into configurations, metadata and task data. Its objects are
sorted by key, and of a field given twice the last one stays. Whole numbers between -2^63 and 2^64
- 1 stay whole numbers; all others are doubles, minus zero among them. `Json.ofDocument?` reads a
value from a document and `Json.toDocument` writes it.
-/

namespace Colloquy

/-- A free JSON value. -/
inductive Json where
  | null
  | bool (b : Bool)
  | int (n : Int)
  | float (x : Binary64)
  | string (s : String)
  | array (items : List Json)
  | object (fields : List (String × Json))

/-- A free JSON object: its fields, sorted by key. -/
abbrev JsonObject := List (String × Json)

namespace Json

instance : Inhabited Json := ⟨.null⟩

/-- The greatest number of arrays and objects that a value read from a text may lie in, itself
included. -/
def maxLevels : Nat := 127

/-! ### Numbers -/

/-- The value of a decimal digit. -/
def digitValue (c : Char) : Nat := c.toNat - '0'.toNat

/-- Reads digits into a significand as long as it stays below 2^64, and counts those left over. -/
def significandOf (acc : Nat) : List Char → Nat × List Char
  | [] => (acc, [])
  | c :: rest =>
    let next := acc * 10 + digitValue c
    if next < Nat.pow 2 64 then significandOf next rest else (acc, c :: rest)

/-- The value of an exponent as written. -/
def Exponent.value (e : Exponent) : Int :=
  let n := e.digits.foldl (fun acc c => acc * 10 + digitValue c) 0
  if e.sign = some true then -(n : Int) else n

/-- The value of a number as written, unless it is beyond the largest double. -/
def ofNumeral? (n : Numeral) : Option Json :=
  let (digits, dropped) := significandOf 0 n.whole
  match n.fraction, n.exponent, dropped with
  | none, none, [] =>
    if !n.negative then some (.int digits)
    else if 0 < digits ∧ digits ≤ Nat.pow 2 63 then some (.int (-digits))
    else (Binary64.ofDecimal? true digits 0).map .float
  | fraction, exponent, dropped =>
    let places := fraction.getD []
    let (digits, left) := significandOf digits places
    let shift : Int := (dropped.length : Int) - (places.length - left.length : Nat)
    let shift := shift + (exponent.map Exponent.value).getD 0
    (Binary64.ofDecimal? n.negative digits shift).map .float

/-- How a double is written: plainly from 1e-5 up to but not including 1e16, always with a fraction,
and otherwise with an exponent that carries a sign. -/
def floatNumeral (x : Binary64) : Numeral :=
  if x.rank = 0 then ⟨x.negative, ['0'], some ['0'], none⟩
  else
    let d := x.shortest
    let trimmed := ((Nat.toDigits 10 d.digits).reverse.dropWhile (· == '0')).reverse
    let lead : Int := (Nat.toDigits 10 d.digits).length + d.exponent - 1
    let orZero (cs : List Char) := if cs.isEmpty then ['0'] else cs
    if lead < -5 ∨ 16 ≤ lead then
      let fraction := if 1 < trimmed.length then some (trimmed.drop 1) else none
      ⟨x.negative, trimmed.take 1, fraction, some ⟨some (lead < 0), Nat.toDigits 10 lead.natAbs⟩⟩
    else if 0 ≤ lead then
      let width := lead.toNat + 1
      let padded := trimmed ++ List.replicate (width - trimmed.length) '0'
      ⟨x.negative, padded.take width, some (orZero (padded.drop width)), none⟩
    else
      ⟨x.negative, ['0'], some (List.replicate ((-lead).toNat - 1) '0' ++ trimmed), none⟩

/-! ### Objects -/

/-- Puts a field at its place in a sorted object; a field with the same key gives way. -/
def insertField (key : String) (v : Json) : JsonObject → JsonObject
  | [] => [(key, v)]
  | (k, w) :: rest =>
    if key < k then (key, v) :: (k, w) :: rest
    else if key = k then (key, v) :: rest
    else (k, w) :: insertField key v rest

/-- Whether an object has a field with the given key. -/
def hasKey (key : String) (fields : JsonObject) : Bool :=
  fields.any (·.1 == key)

/-! ### Reading and writing -/

mutual

/-- Reads a value that may nest `levels` arrays and objects, itself included. -/
def ofDocument? (levels : Nat) : Document → Option Json
  | .null => some .null
  | .bool b => some (.bool b)
  | .number n => ofNumeral? n
  | .string s => s.map .string
  | .array items =>
    match levels with
    | 0 => none
    | levels + 1 => (itemsOfDocuments? levels items).map .array
  | .object fields =>
    match levels with
    | 0 => none
    | levels + 1 => (fieldsOfDocuments? levels [] fields).map .object

/-- Reads the items of an array. -/
def itemsOfDocuments? (levels : Nat) : List Document → Option (List Json)
  | [] => some []
  | d :: rest =>
    match ofDocument? levels d, itemsOfDocuments? levels rest with
    | some v, some vs => some (v :: vs)
    | _, _ => none

/-- Reads the fields of an object one after another into `done`. -/
def fieldsOfDocuments? (levels : Nat) (done : JsonObject) :
    List (Option String × Document) → Option JsonObject
  | [] => some done
  | (key, d) :: rest =>
    match key, ofDocument? levels d with
    | some key, some v => fieldsOfDocuments? levels (insertField key v done) rest
    | _, _ => none

end

/-- Reads an object, and nothing but an object. -/
def objectOfDocument? (levels : Nat) (d : Document) : Option JsonObject :=
  match d, levels with
  | .object fields, levels + 1 => fieldsOfDocuments? levels [] fields
  | _, _ => none

mutual

/-- Writes a value. -/
def toDocument : Json → Document
  | .null => .null
  | .bool b => .bool b
  | .int n => .int n
  | .float x => .number (floatNumeral x)
  | .string s => .text s
  | .array items => .array (itemsToDocuments items)
  | .object fields => .object (fieldsToDocuments fields)

/-- Writes the items of an array. -/
def itemsToDocuments : List Json → List Document
  | [] => []
  | v :: rest => toDocument v :: itemsToDocuments rest

/-- Writes the fields of an object. -/
def fieldsToDocuments : List (String × Json) → List (Option String × Document)
  | [] => []
  | (k, v) :: rest => (some k, toDocument v) :: fieldsToDocuments rest

end

/-- Writes an object. -/
def objectToDocument (fields : JsonObject) : Document :=
  .object (fieldsToDocuments fields)

end Json

end Colloquy
