import Colloquy.Json

/-!
# Reading records from documents

A record is written either as an object with a field per name or as an array of the values in order.
`Json.fields?` turns both into the same thing: the values that are present, by name. In an object,
unknown names are passed over and a known name must not come twice; an array may be too short, if
what is missing has a default, but not too long. A `Json.Reader` reads one value and knows how many
levels of nesting are left.
-/

namespace Colloquy.Json

/-- Reads a value from a document that may nest the given number of levels. -/
abbrev Reader (α : Type) := Nat → Document → Option α

/-- The values that are present in a record, and the levels left for them. -/
structure Fields where
  levels : Nat
  present : List (String × Document)

/-- The fields of an object whose names are known. A name that is no text is refused. -/
def knownFields? (names : List String) :
    List (Option String × Document) → Option (List (String × Document))
  | [] => some []
  | (key, d) :: rest => do
    let key ← key
    let known ← knownFields? names rest
    if names.contains key then
      if known.any (·.1 == key) then none else return (key, d) :: known
    else return known

/-- The values present in a record with the given names. -/
def fields? (names : List String) : Reader Fields := fun levels d =>
  match levels, d with
  | levels + 1, .object fields => (knownFields? names fields).map fun present => ⟨levels, present⟩
  | levels + 1, .array items =>
    if items.length ≤ names.length then some ⟨levels, names.zip items⟩ else none
  | _, _ => none

/-- The value of a field, if it is present. -/
def Fields.get? (f : Fields) (name : String) : Option Document :=
  f.present.lookup name

/-- Reads a field that has to be present. -/
def Fields.required {α : Type} (f : Fields) (name : String) (read : Reader α) : Option α :=
  (f.get? name).bind (read f.levels)

/-- Reads a field that has a default. -/
def Fields.withDefault {α : Type} (f : Fields) (name : String) (default : α) (read : Reader α) :
    Option α :=
  match f.get? name with
  | some d => read f.levels d
  | none => some default

namespace Reader

/-- Reads a string. -/
def text : Reader String
  | _, .string s => s
  | _, _ => none

/-- Reads a truth value. -/
def bool : Reader Bool
  | _, .bool b => some b
  | _, _ => none

/-- Reads a whole number between two bounds. Only numbers without fraction and exponent count. -/
def intBetween (low high : Int) : Reader Int
  | _, .number n =>
    match ofNumeral? n with
    | some (.int i) => if low ≤ i ∧ i ≤ high then some i else none
    | _ => none
  | _, _ => none

/-- Reads a signed 64-bit integer. -/
def int64 : Reader Int := intBetween (-9223372036854775808) 9223372036854775807

/-- Reads an unsigned 32-bit integer. -/
def nat32 : Reader Nat := fun levels d => (intBetween 0 4294967295 levels d).map Int.toNat

/-- Reads an unsigned 64-bit integer. -/
def nat64 : Reader Nat := fun levels d => (intBetween 0 18446744073709551615 levels d).map Int.toNat

/-- Reads `null` as nothing. -/
def optional {α : Type} (read : Reader α) : Reader (Option α)
  | _, .null => some none
  | levels, d => (read levels d).map some

/-- Reads an array. -/
def list {α : Type} (read : Reader α) : Reader (List α)
  | levels + 1, .array items => items.mapM (read levels)
  | _, _ => none

/-- Reads a free object. -/
def object : Reader JsonObject := objectOfDocument?

/-- Reads one of several names, written as a string or as the only field, with value `null`, of an
object. -/
def oneOf {α : Type} (named? : String → Option α) : Reader α
  | _, .string s => s.bind named?
  | _ + 1, .object [(key, .null)] => key.bind named?
  | _, _ => none

end Reader

end Colloquy.Json
