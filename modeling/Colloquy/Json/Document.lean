/-!
# JSON documents

A `Json.Document` is a JSON text as it was written: numbers keep their digits, and objects keep the
order of their fields and the fields given twice. Records are read from documents and written to
them; what a field means is decided there and not here.
-/

namespace Colloquy.Json

/-- The exponent of a number as written: its sign, if it has one, and its digits. -/
structure Exponent where
  /-- A minus sign is `some true`, a plus sign `some false`. -/
  sign : Option Bool
  digits : List Char
  deriving DecidableEq

/-- A number as written. -/
structure Numeral where
  negative : Bool
  whole : List Char
  fraction : Option (List Char)
  exponent : Option Exponent
  deriving DecidableEq

/-- A JSON text as written. A string is `none` when it escapes one half of a surrogate pair, which
no text contains. -/
inductive Document where
  | null
  | bool (b : Bool)
  | number (n : Numeral)
  | string (s : Option String)
  | array (items : List Document)
  | object (fields : List (Option String × Document))

namespace Document

instance : Inhabited Document := ⟨.null⟩

/-- A string document. -/
def text (s : String) : Document := .string (some s)

/-- A number document without fraction and exponent. -/
def int (n : Int) : Document :=
  .number ⟨n < 0, Nat.toDigits 10 n.natAbs, none, none⟩

/-- An object document with the given fields in order. -/
def record (fields : List (String × Document)) : Document :=
  .object (fields.map fun (k, v) => (some k, v))

end Document

end Colloquy.Json
