import Colloquy.Uuid

/-!
# TOML values

A `Toml` is a value of a configuration file. Nothing is computed with fractions, dates and times,
so they are kept as they are written. The functions below take a value apart for whoever expects a
value of some kind; a record may also be given as the array of its values in order, and an
identifier as the array of its bytes.
-/

namespace Colloquy

/-- A value of a configuration file. -/
inductive Toml where
  | string (s : String)
  | integer (n : Int)
  | float (written : String)
  | bool (b : Bool)
  | date (written : String)
  | array (items : List Toml)
  | table (fields : List (String × Toml))

namespace Toml

instance : Inhabited Toml := ⟨.table []⟩

/-- The greatest depth of nested arrays and inline tables, and the greatest number of parts of a
dotted key. -/
def maxLevels : Nat := 79

/-- The text of a string. -/
def text? : Toml → Option String
  | string s => some s
  | _ => none

/-- An unsigned 32-bit integer. -/
def nat32? : Toml → Option Nat
  | integer n => if 0 ≤ n ∧ n < 4294967296 then some n.toNat else none
  | _ => none

/-- An unsigned 8-bit integer. -/
def byte? : Toml → Option UInt8
  | integer n => if 0 ≤ n ∧ n < 256 then some (.ofNat n.toNat) else none
  | _ => none

/-- An identifier: its text, or an array that begins with its 16 bytes. -/
def uuid? : Toml → Option Uuid
  | string s => Uuid.read? s
  | array items =>
    if 16 ≤ items.length then ((items.take 16).mapM byte?).map Uuid.ofBytes else none
  | _ => none

/-- The values of a record by name. An array holds them in order, possibly fewer or more of them; a
date is a record of which no name is known. -/
def fields? (names : List String) : Toml → Option (List (String × Toml))
  | table fields => some fields
  | array items => some (names.zip items)
  | date _ => some []
  | _ => none

/-- Reads a field of a record that may be missing. -/
def field? {α : Type} (fields : List (String × Toml)) (name : String) (default : α)
    (read : Toml → Option α) : Option α :=
  match fields.lookup name with
  | some v => read v
  | none => some default

end Toml

end Colloquy
