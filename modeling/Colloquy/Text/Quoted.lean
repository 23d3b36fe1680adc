import Colloquy.Text.Hidden

/-!
# Quoted text

`Text.quote` puts a text between quotation marks so that it can be told apart from the message
around it: quotation marks and backslashes are escaped, and characters that cannot be seen are
written by number.
-/

namespace Colloquy.Text

/-- A backslash followed by one character. -/
def backslashed (c : Char) : List Char := ['\\', c]

/-- A character written by its number in lower-case hexadecimal, between braces. -/
def byNumber (c : Char) : List Char :=
  ['\\', 'u', '\x7b'] ++ Nat.toDigits 16 c.toNat ++ ['\x7d']

/-- How one character of a quoted text is written. -/
def quoteChar (c : Char) : List Char :=
  match c with
  | '\x00' => backslashed '0'
  | '\t' => backslashed 't'
  | '\n' => backslashed 'n'
  | '\r' => backslashed 'r'
  | '"' => backslashed '"'
  | '\\' => backslashed '\\'
  | c => if isHidden c then byNumber c else [c]

/-- The text between quotation marks, with its awkward characters escaped. -/
def quote (s : String) : String :=
  String.ofList ('"' :: s.toList.flatMap quoteChar ++ ['"'])

end Colloquy.Text
