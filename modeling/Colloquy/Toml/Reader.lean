import Colloquy.Toml.Scalar
import Colloquy.Toml.Tree

/-!
# Reading configuration files

`Toml.ofString?` reads a file. A file is a sequence of lines: headers, which say to which table the
lines after them belong, and assignments of values to keys. Every reader here leaves a shorter
rest; where that is not plain from its form it is checked, which ends the recursion.
-/

namespace Colloquy.Toml

/-! ### Between tokens -/

/-- Drops blanks. -/
def skipBlanks (cs : List Char) : List Char := cs.dropWhile isBlank

/-- Drops blanks, line breaks and comments. -/
def skipLines (inComment : Bool) : List Char → List Char
  | [] => []
  | c :: rest =>
    if inComment then skipLines (c != '\n') rest
    else if isBlank c || c == '\n' then skipLines false rest
    else if c == '#' then skipLines true rest
    else c :: rest

/-- Skipping lines adds no text. -/
theorem skipLines_length (inComment : Bool) (cs : List Char) :
    (skipLines inComment cs).length ≤ cs.length := by
  fun_induction skipLines inComment cs with
  | case1 => simp
  | case2 | case3 | case4 => simp only [List.length_cons]; omega
  | case5 => simp

/-- What follows a line that is at its end but for blanks and a comment. -/
def afterLine? (cs : List Char) : Option (List Char) :=
  match skipBlanks cs with
  | [] => some []
  | '\n' :: rest => some rest
  | '#' :: rest => some ((rest.dropWhile (· != '\n')).drop 1)
  | _ => none

/-! ### Keys -/

/-- Reads one part of a key. -/
def scanSimpleKey? (cs : List Char) : Option (String × List Char) :=
  match cs with
  | '"' :: _ => scanLineString? cs
  | '\'' :: _ => scanLineString? cs
  | _ =>
    if (cs.takeWhile isBare).isEmpty then none
    else some (String.ofList (cs.takeWhile isBare), cs.dropWhile isBare)

/-- Reads a key of at most `most` parts with points between them, and the blanks around it. -/
def scanKey? : Nat → List Char → Option (List String × List Char)
  | 0, _ => none
  | most + 1, cs => do
    let (part, rest) ← scanSimpleKey? (skipBlanks cs)
    match skipBlanks rest with
    | '.' :: rest => do
      let (path, rest) ← scanKey? most rest
      return (part :: path, rest)
    | rest => return ([part], rest)

/-- Reads a key and the equals sign after it: the path, and the last part of the key. -/
def scanAssignedKey? (cs : List Char) : Option (List String × String × List Char) := do
  let (path, rest) ← scanKey? maxLevels cs
  let key ← path.getLast?
  match rest with
  | '=' :: rest => return (path.dropLast, key, rest)
  | _ => none

/-! ### Values -/

mutual

/-- Reads a value that may nest `levels` arrays and inline tables, itself included. -/
def scanValue? (levels : Nat) (cs : List Char) : Option (Toml × List Char) :=
  match cs, levels with
  | '[' :: rest, levels + 1 =>
    (scanItems? levels [] rest).map fun (items, rest) => (.array items, rest)
  | '\x7b' :: rest, levels + 1 =>
    (scanFields? levels [] rest).map fun (fields, rest) => (.table (Node.fieldsToToml fields), rest)
  | '"' :: _, _ => (scanString? cs).map fun (s, rest) => (.string s, rest)
  | '\'' :: _, _ => (scanString? cs).map fun (s, rest) => (.string s, rest)
  | _, _ => (ofWord? (scanWord cs).1).map fun v => (v, (scanWord cs).2)
termination_by 2 * cs.length

/-- Reads the items of an array and its closing bracket. A comma may follow the last item. -/
def scanItems? (levels : Nat) (done : List Toml) (cs : List Char) :
    Option (List Toml × List Char) :=
  match skipLines false cs with
  | ']' :: rest => some (done.reverse, rest)
  | _ =>
    match scanValue? levels (skipLines false cs) with
    | none => none
    | some (v, rest) =>
      match skipLines false rest with
      | ']' :: rest => some ((v :: done).reverse, rest)
      | ',' :: rest =>
        if rest.length < cs.length then scanItems? levels (v :: done) rest else none
      | _ => none
termination_by 2 * cs.length + 1
decreasing_by
  · have := skipLines_length false cs
    omega
  · omega

/-- Reads the fields of an inline table and its closing brace, all within one line. -/
def scanFields? (levels : Nat) (done : List (String × Node)) (cs : List Char) :
    Option (List (String × Node) × List Char) :=
  match skipBlanks cs with
  | '\x7d' :: rest => if done.isEmpty then some ([], rest) else none
  | _ =>
    match scanAssignedKey? cs with
    | none => none
    | some (path, key, rest) =>
      if (skipBlanks rest).length < cs.length then
        match scanValue? levels (skipBlanks rest) with
        | none => none
        | some (v, rest) =>
          match Node.assign? path key v .header done with
          | none => none
          | some done =>
            match skipBlanks rest with
            | '\x7d' :: rest => some (done, rest)
            | ',' :: rest =>
              if rest.length < cs.length then scanFields? levels done rest else none
            | _ => none
      else none
termination_by 2 * cs.length + 1

end

/-! ### Lines -/

/-- A line of a file. -/
inductive Line where
  | header (path : List String) (key : String)
  | elementHeader (path : List String) (key : String)
  | assignment (path : List String) (key : String) (v : Toml)

/-- Reads a line without its end. -/
def scanLine? (cs : List Char) : Option (Line × List Char) :=
  match cs with
  | '[' :: '[' :: rest => do
    let (path, rest) ← scanKey? maxLevels rest
    match rest with
    | ']' :: ']' :: rest => return (.elementHeader path.dropLast (← path.getLast?), rest)
    | _ => none
  | '[' :: rest => do
    let (path, rest) ← scanKey? maxLevels rest
    match rest with
    | ']' :: rest => return (.header path.dropLast (← path.getLast?), rest)
    | _ => none
  | cs => do
    let (path, key, rest) ← scanAssignedKey? cs
    let (v, rest) ← scanValue? maxLevels (skipBlanks rest)
    return (.assignment path key v, rest)

/-- Reads the lines of a file. -/
def lines? (cs : List Char) : Option (List Line) :=
  match skipLines false cs with
  | [] => some []
  | next => do
    let (line, rest) ← scanLine? next
    let rest ← afterLine? rest
    if rest.length < cs.length then return line :: (← lines? rest) else none
termination_by cs.length

/-- Adds lines to the tree; the assignments belong to the table at the path `current`. -/
def grow? (current : List String) (root : List (String × Node)) :
    List Line → Option (List (String × Node))
  | [] => some root
  | .header path key :: rest => do
    grow? (path ++ [key]) (← Node.modify? false (Node.open? key) path .header root) rest
  | .elementHeader path key :: rest => do
    grow? (path ++ [key]) (← Node.modify? false (Node.openElement? key) path .header root) rest
  | .assignment path key v :: rest => do
    grow? current (← Node.modify? false (Node.assign? path key v) current .header root) rest

/-- The text after a byte order mark, if there is one. -/
def dropMark : List Char → List Char
  | '\ufeff' :: rest => rest
  | cs => cs

/-- Reads a configuration file. -/
def ofString? (s : String) : Option Toml := do
  let text ← plainText? (dropMark s.toList)
  let root ← grow? [] [] (← lines? text)
  return .table (Node.fieldsToToml root)

end Colloquy.Toml
