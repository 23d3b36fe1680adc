import Colloquy.Json.Document

/-!
# Writing documents

A document is written on one line without blanks (`Document.compact`), or over several lines with an
indentation of two blanks per level (`Document.pretty`). Strings escape quotation marks,
backslashes and control characters and nothing else; control characters without a letter of their
own are written by number.
-/

namespace Colloquy.Json

/-- Two lower-case hexadecimal digits of a number below 256. -/
def hexPair (n : Nat) : List Char :=
  [Nat.digitChar (n / 16), Nat.digitChar (n % 16)]

/-- How one character of a string is written. -/
def escapeChar (c : Char) : List Char :=
  if c = '"' then ['\\', '"']
  else if c = '\\' then ['\\', '\\']
  else if c = '\x08' then ['\\', 'b']
  else if c = '\x0c' then ['\\', 'f']
  else if c = '\n' then ['\\', 'n']
  else if c = '\r' then ['\\', 'r']
  else if c = '\t' then ['\\', 't']
  else if c.toNat < 0x20 then ['\\', 'u', '0', '0'] ++ hexPair c.toNat
  else [c]

/-- A string between quotation marks. One half of a surrogate pair stands for all strings that are
no texts. -/
def stringChars : Option String → List Char
  | some s => '"' :: s.toList.flatMap escapeChar ++ ['"']
  | none => '"' :: "\\ud800".toList ++ ['"']

/-- The sign of an exponent. -/
def signChars : Option Bool → List Char
  | some true => ['-']
  | some false => ['+']
  | none => []

/-- A number as it was written. -/
def Numeral.chars (n : Numeral) : List Char :=
  (if n.negative then ['-'] else []) ++ n.whole ++
    (match n.fraction with
      | some digits => '.' :: digits
      | none => []) ++
    match n.exponent with
      | some e => 'e' :: signChars e.sign ++ e.digits
      | none => []

namespace Document

mutual

/-- Writes a document on one line. -/
def chars : Document → List Char
  | .null => "null".toList
  | .bool b => if b then "true".toList else "false".toList
  | .number n => n.chars
  | .string s => stringChars s
  | .array items => '[' :: itemsChars items ++ [']']
  | .object fields => '\x7b' :: fieldsChars fields ++ ['\x7d']

/-- Writes the items of an array with commas between them. -/
def itemsChars : List Document → List Char
  | [] => []
  | [v] => chars v
  | v :: w :: rest => chars v ++ ',' :: itemsChars (w :: rest)

/-- Writes the fields of an object with commas between them. -/
def fieldsChars : List (Option String × Document) → List Char
  | [] => []
  | [(k, v)] => stringChars k ++ ':' :: chars v
  | (k, v) :: f :: rest => stringChars k ++ ':' :: chars v ++ ',' :: fieldsChars (f :: rest)

end

/-- A line break and the indentation of a level. -/
def newLine (level : Nat) : List Char :=
  '\n' :: List.replicate (2 * level) ' '

mutual

/-- Writes a document over several lines; `level` counts the arrays and objects around it. -/
def prettyChars (level : Nat) : Document → List Char
  | .null => "null".toList
  | .bool b => if b then "true".toList else "false".toList
  | .number n => n.chars
  | .string s => stringChars s
  | .array [] => ['[', ']']
  | .array (v :: rest) =>
    '[' :: newLine (level + 1) ++ prettyItems (level + 1) (v :: rest) ++ newLine level ++ [']']
  | .object [] => ['\x7b', '\x7d']
  | .object (f :: rest) =>
    '\x7b' :: newLine (level + 1) ++ prettyFields (level + 1) (f :: rest) ++ newLine level ++
      ['\x7d']

/-- Writes the items of an array on lines of their own. -/
def prettyItems (level : Nat) : List Document → List Char
  | [] => []
  | [v] => prettyChars level v
  | v :: w :: rest => prettyChars level v ++ ',' :: newLine level ++ prettyItems level (w :: rest)

/-- Writes the fields of an object on lines of their own. -/
def prettyFields (level : Nat) : List (Option String × Document) → List Char
  | [] => []
  | [(k, v)] => stringChars k ++ ':' :: ' ' :: prettyChars level v
  | (k, v) :: f :: rest =>
    stringChars k ++ ':' :: ' ' :: prettyChars level v ++ ',' :: newLine level ++
      prettyFields level (f :: rest)

end

/-- The document on one line. -/
def compact (d : Document) : String :=
  String.ofList d.chars

/-- The document over several lines. -/
def pretty (d : Document) : String :=
  String.ofList (d.prettyChars 0)

end Document

end Colloquy.Json
