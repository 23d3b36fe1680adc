import Colloquy.Toml

/-!
# Growing tables

The lines of a configuration file add to a tree of tables. A `Toml.Node` remembers how each table
came about, because that decides what may still be added: a table is given one header at most,
dotted keys do not add to a table that has a header, and what is written as a value is never added
to.
-/

namespace Colloquy.Toml

/-- How a table came about. -/
inductive Origin where
  /-- By a header of its own. -/
  | header
  /-- By the header of a table inside it. -/
  | implied
  /-- By a dotted key. -/
  | dotted
  deriving DecidableEq

/-- What a key stands for while the file is read. -/
inductive Node where
  | value (v : Toml)
  /-- A table for every header in double brackets. -/
  | tables (elements : List (List (String × Node)))
  | table (origin : Origin) (fields : List (String × Node))

namespace Node

/-- Puts a node in the place of the one with the same key, or at the end. -/
def put (key : String) (node : Node) (fields : List (String × Node)) : List (String × Node) :=
  if fields.any (·.1 == key) then
    fields.map fun (k, n) => if k == key then (k, node) else (k, n)
  else fields ++ [(key, node)]

/-- Changes the table at the end of a path. Tables missing on the way are made; an array of tables
is entered at its last element. -/
def modify? (dotted : Bool)
    (change : Origin → List (String × Node) → Option (List (String × Node))) :
    List String → Origin → List (String × Node) → Option (List (String × Node))
  | [], origin, fields => change origin fields
  | key :: path, _, fields =>
    match fields.lookup key with
    | none => do
      let origin := if dotted then .dotted else .implied
      return put key (.table origin (← modify? dotted change path origin [])) fields
    | some (.table origin inner) =>
      if dotted && origin == .header then none
      else do return put key (.table origin (← modify? dotted change path origin inner)) fields
    | some (.tables elements) => do
      let last ← elements.getLast?
      let last ← modify? dotted change path .header last
      return put key (.tables (elements.dropLast ++ [last])) fields
    | some (.value _) => none

/-- Gives a value to a key of a table. A dotted key ends in a table made by dotted keys. -/
def assign? (path : List String) (key : String) (v : Toml) (origin : Origin)
    (fields : List (String × Node)) : Option (List (String × Node)) :=
  modify? true (fun origin fields =>
    if (origin == .dotted) == path.isEmpty || fields.any (·.1 == key) then none
    else some (fields ++ [(key, .value v)])) path origin fields

/-- Gives a table its header. -/
def open? (key : String) (_ : Origin) (fields : List (String × Node)) :
    Option (List (String × Node)) :=
  match fields.lookup key with
  | none => some (put key (.table .header []) fields)
  | some (.table .implied inner) => some (put key (.table .header inner) fields)
  | some _ => none

/-- Adds a table to an array of tables. -/
def openElement? (key : String) (_ : Origin) (fields : List (String × Node)) :
    Option (List (String × Node)) :=
  match fields.lookup key with
  | none => some (put key (.tables [[]]) fields)
  | some (.tables elements) => some (put key (.tables (elements ++ [[]])) fields)
  | some _ => none

mutual

/-- The value of a finished node. -/
def toToml : Node → Toml
  | .value v => v
  | .tables elements => .array (elementsToToml elements)
  | .table _ fields => .table (fieldsToToml fields)

/-- The values of finished tables. -/
def elementsToToml : List (List (String × Node)) → List Toml
  | [] => []
  | fields :: rest => .table (fieldsToToml fields) :: elementsToToml rest

/-- The fields of a finished table. -/
def fieldsToToml : List (String × Node) → List (String × Toml)
  | [] => []
  | (key, node) :: rest => (key, toToml node) :: fieldsToToml rest

end

end Node

end Colloquy.Toml
