import Colloquy.Binary64
import Colloquy.Json.Token
import Colloquy.Text.Decimal
import Colloquy.Toml

/-!
# Strings, numbers and dates

`Toml.scanString?` reads a string in any of its four forms. Everything else that is no array and no
table is one word without blanks, which `Toml.ofWord?` reads as a truth value, a number, a date or a
time; a blank between a date and its time is joined to the word before.
-/

namespace Colloquy.Toml

/-! ### Characters -/

/-- Whether a character may occur in a file: anything but control characters, tabs and line breaks
excepted. -/
def isAllowed (c : Char) : Bool :=
  c == '\t' || c == '\n' || (0x20 ≤ c.toNat && c.toNat != 0x7f)

/-- Writes every line break as one character, and refuses all other control characters. -/
def plainText? : List Char → Option (List Char)
  | [] => some []
  | '\r' :: '\n' :: rest => (plainText? rest).map ('\n' :: ·)
  | c :: rest => if isAllowed c then (plainText? rest).map (c :: ·) else none

/-- A blank within a line. -/
def isBlank (c : Char) : Bool := c == ' ' || c == '\t'

/-- The characters of keys without quotation marks. -/
def isBare (c : Char) : Bool := c.isAlphanum || c == '_' || c == '-'

/-! ### Strings -/

/-- The character of an escape of one letter. -/
def shortEscape? : Char → Option Char
  | 'b' => some '\x08'
  | 't' => some '\t'
  | 'n' => some '\n'
  | 'f' => some '\x0c'
  | 'r' => some '\r'
  | '"' => some '"'
  | '\\' => some '\\'
  | _ => none

/-- The character with the given hexadecimal number. -/
def hexChar? (digits : List Char) : Option Char := do
  let values ← digits.mapM Json.hexValue?
  let n := values.foldl (fun acc d => acc * 16 + d) 0
  if n.isValidChar then return Char.ofNat n else none

/-- Puts a character in front of what was scanned. -/
def consChar (c : Option Char) (scanned : Option (List Char × List Char)) :
    Option (List Char × List Char) :=
  match c, scanned with
  | some c, some (cs, rest) => some (c :: cs, rest)
  | _, _ => none

/-- Reads a string with escapes up to its quotation mark. -/
def scanBasic : List Char → Option (List Char × List Char)
  | '"' :: rest => some ([], rest)
  | '\\' :: 'u' :: a :: b :: c :: d :: rest => consChar (hexChar? [a, b, c, d]) (scanBasic rest)
  | '\\' :: 'U' :: a :: b :: c :: d :: e :: f :: g :: h :: rest =>
    consChar (hexChar? [a, b, c, d, e, f, g, h]) (scanBasic rest)
  | '\\' :: e :: rest => consChar (shortEscape? e) (scanBasic rest)
  | c :: rest => if c == '\n' || c == '\\' then none else consChar (some c) (scanBasic rest)
  | [] => none

/-- Reads a string without escapes up to its quotation mark. -/
def scanLiteral : List Char → Option (List Char × List Char)
  | '\'' :: rest => some ([], rest)
  | c :: rest => if c == '\n' then none else consChar (some c) (scanLiteral rest)
  | [] => none

/-- Whether only blanks are left in the line. -/
def blankLine (cs : List Char) : Bool :=
  match cs.dropWhile isBlank with
  | '\n' :: _ => true
  | _ => false

/-- Reads a string of several lines with escapes. A backslash at the end of a line drops all blanks
and line breaks that follow, which is what `skipping` stands for. Up to two quotation marks may
stand just before the three closing ones. -/
def scanBasicLines (skipping : Bool) : List Char → Option (List Char × List Char)
  | '"' :: '"' :: '"' :: '"' :: '"' :: rest => some (['"', '"'], rest)
  | '"' :: '"' :: '"' :: '"' :: rest => some (['"'], rest)
  | '"' :: '"' :: '"' :: rest => some ([], rest)
  | '\\' :: 'u' :: a :: b :: c :: d :: rest =>
    consChar (hexChar? [a, b, c, d]) (scanBasicLines false rest)
  | '\\' :: 'U' :: a :: b :: c :: d :: e :: f :: g :: h :: rest =>
    consChar (hexChar? [a, b, c, d, e, f, g, h]) (scanBasicLines false rest)
  | '\\' :: e :: rest =>
    if blankLine (e :: rest) then scanBasicLines true (e :: rest)
    else consChar (shortEscape? e) (scanBasicLines false rest)
  | c :: rest =>
    if skipping && (isBlank c || c == '\n') then scanBasicLines true rest
    else if c == '\\' then none
    else consChar (some c) (scanBasicLines false rest)
  | [] => none

/-- Reads a string of several lines without escapes. -/
def scanLiteralLines : List Char → Option (List Char × List Char)
  | '\'' :: '\'' :: '\'' :: '\'' :: '\'' :: rest => some (['\'', '\''], rest)
  | '\'' :: '\'' :: '\'' :: '\'' :: rest => some (['\''], rest)
  | '\'' :: '\'' :: '\'' :: rest => some ([], rest)
  | c :: rest => consChar (some c) (scanLiteralLines rest)
  | [] => none

/-- A line break just after the opening quotation marks does not count. -/
def dropFirstBreak : List Char → List Char
  | '\n' :: rest => rest
  | cs => cs

/-- Reads a string of one line. -/
def scanLineString? : List Char → Option (String × List Char)
  | '"' :: rest => (scanBasic rest).map fun (cs, rest) => (String.ofList cs, rest)
  | '\'' :: rest => (scanLiteral rest).map fun (cs, rest) => (String.ofList cs, rest)
  | _ => none

/-- Reads a string in any form. -/
def scanString? : List Char → Option (String × List Char)
  | '"' :: '"' :: '"' :: rest =>
    (scanBasicLines false (dropFirstBreak rest)).map fun (cs, rest) => (String.ofList cs, rest)
  | '\'' :: '\'' :: '\'' :: rest =>
    (scanLiteralLines (dropFirstBreak rest)).map fun (cs, rest) => (String.ofList cs, rest)
  | cs => scanLineString? cs

/-! ### Numbers -/

/-- The digits of a number that may have single underscores between them. -/
def grouped? (isDigit : Char → Bool) : List Char → Option (List Char)
  | [c] => if isDigit c then some [c] else none
  | c :: '_' :: rest => if isDigit c then (grouped? isDigit rest).map (c :: ·) else none
  | c :: rest => if isDigit c then (grouped? isDigit rest).map (c :: ·) else none
  | [] => none

/-- The value of digits in a base. -/
def valueIn? (base : Nat) (digits : List Char) : Option Nat := do
  let values ← digits.mapM Json.hexValue?
  return values.foldl (fun acc d => acc * base + d) 0

/-- The sign of a number, and what follows it. -/
def signOf : List Char → Option Bool × List Char
  | '-' :: rest => (some true, rest)
  | '+' :: rest => (some false, rest)
  | cs => (none, cs)

/-- The digits of a whole number without leading zeros. -/
def wholeDigits? (cs : List Char) : Option (List Char) :=
  match grouped? Char.isDigit cs with
  | some ('0' :: _ :: _) => none
  | digits => digits

/-- A signed 64-bit integer, if the number is one. -/
def integer? (n : Int) : Option Toml :=
  if Decimal.InInt64 n then some (.integer n) else none

/-- Reads an integer: decimal with an optional sign, or in another base after its mark. -/
def integerOfWord? (cs : List Char) : Option Toml :=
  match cs with
  | '0' :: 'x' :: rest => do
    integer? (← valueIn? 16 (← grouped? (fun c => (Json.hexValue? c).isSome) rest))
  | '0' :: 'o' :: rest => do
    integer? (← valueIn? 8 (← grouped? (fun c => '0' ≤ c && c ≤ '7') rest))
  | '0' :: 'b' :: rest => do
    integer? (← valueIn? 2 (← grouped? (fun c => c == '0' || c == '1') rest))
  | cs => do
    let n : Nat ← valueIn? 10 (← wholeDigits? (signOf cs).2)
    integer? (if (signOf cs).1 = some true then -(n : Int) else n)

/-- Whether a decimal is beyond the largest double. -/
def tooLarge (digits : Nat) (exponent : Int) : Bool :=
  if digits = 0 || exponent < -(Nat.toDigits 10 digits).length then false
  else if 400 < exponent then true
  else
    (if 0 ≤ exponent then Binary64.nearest? false (digits * Nat.pow 10 exponent.toNat) 1
      else Binary64.nearest? false digits (Nat.pow 10 (-exponent).toNat)).isNone

/-- Reads a number with a fraction, an exponent, or both. One too large for a double is refused,
unless it is negative. -/
def floatOfWord? (cs : List Char) : Option Toml := do
  let (sign, body) := signOf cs
  let isMark (c : Char) : Bool := c == 'e' || c == 'E'
  let mantissa := body.takeWhile fun c => !isMark c
  let whole ← wholeDigits? (mantissa.takeWhile (· != '.'))
  let fraction ← match mantissa.dropWhile (· != '.') with
    | [] => some []
    | _ :: digits => grouped? Char.isDigit digits
  let exponent : Int ← match body.dropWhile fun c => !isMark c with
    | [] => if fraction.isEmpty then none else some 0
    | _ :: marked => do
      let n : Nat ← valueIn? 10 (← grouped? Char.isDigit (signOf marked).2)
      pure (if (signOf marked).1 = some true then -(n : Int) else n)
  let digits ← valueIn? 10 (whole ++ fraction)
  if sign ≠ some true ∧ tooLarge digits (exponent - fraction.length) then none
  else return .float (String.ofList cs)

/-! ### Dates and times -/

/-- The number of exactly two digits, if it lies between two bounds. -/
def twoDigits? (low high : Nat) (a b : Char) : Option Nat := do
  let n ← Decimal.read? [a, b]
  if low ≤ n ∧ n ≤ high then return n else none

/-- The number of days of a month. -/
def daysIn (year month : Nat) : Nat :=
  if month = 2 then
    if year % 4 = 0 ∧ (year % 100 ≠ 0 ∨ year % 400 = 0) then 29 else 28
  else if month = 4 ∨ month = 6 ∨ month = 9 ∨ month = 11 then 30
  else 31

/-- What follows a date, if the text starts with one. -/
def afterDate? : List Char → Option (List Char)
  | y₁ :: y₂ :: y₃ :: y₄ :: '-' :: m₁ :: m₂ :: '-' :: d₁ :: d₂ :: rest => do
    let year ← Decimal.read? [y₁, y₂, y₃, y₄]
    let month ← twoDigits? 1 12 m₁ m₂
    let _ ← twoDigits? 1 (daysIn year month) d₁ d₂
    return rest
  | _ => none

/-- What follows the fraction of a second, if there is one. -/
def afterFraction? : List Char → Option (List Char)
  | '.' :: rest => if (rest.takeWhile Char.isDigit).isEmpty then none
    else some (rest.dropWhile Char.isDigit)
  | cs => some cs

/-- What follows a time of day, if the text starts with one. A second may be a leap second. -/
def afterTime? : List Char → Option (List Char)
  | h₁ :: h₂ :: ':' :: m₁ :: m₂ :: ':' :: s₁ :: s₂ :: rest => do
    let _ ← twoDigits? 0 23 h₁ h₂
    let _ ← twoDigits? 0 59 m₁ m₂
    let _ ← twoDigits? 0 60 s₁ s₂
    afterFraction? rest
  | _ => none

/-- Whether a text is the offset of a zone, or empty. -/
def isOffset : List Char → Bool
  | [] => true
  | [c] => c == 'Z' || c == 'z'
  | [sign, h₁, h₂, ':', m₁, m₂] =>
    (sign == '+' || sign == '-') && (twoDigits? 0 23 h₁ h₂).isSome && (twoDigits? 0 59 m₁ m₂).isSome
  | _ => false

/-- Whether a word is a date, a time of day, or a date and a time with or without an offset. -/
def isDate (cs : List Char) : Bool :=
  match afterDate? cs with
  | some [] => true
  | some (c :: rest) => (c == 'T' || c == 't' || c == ' ') && ((afterTime? rest).any isOffset)
  | none => afterTime? cs == some []

/-! ### Words -/

/-- The characters of words. -/
def isWordChar (c : Char) : Bool := isBare c || c == '+' || c == '.' || c == ':'

/-- Takes a word off the front of a text. After a date, one blank and what follows it belong to the
word, if that starts with a digit. -/
def scanWord (cs : List Char) : List Char × List Char :=
  let word := cs.takeWhile isWordChar
  let rest := cs.dropWhile isWordChar
  match afterDate? word, rest with
  | some [], ' ' :: c :: more =>
    if c.isDigit then
      (word ++ ' ' :: (c :: more).takeWhile isWordChar, (c :: more).dropWhile isWordChar)
    else (word, rest)
  | _, _ => (word, rest)

/-- The value that a word writes. -/
def ofWord? (cs : List Char) : Option Toml :=
  if cs = "true".toList then some (.bool true)
  else if cs = "false".toList then some (.bool false)
  else if (signOf cs).2 = "inf".toList || (signOf cs).2 = "nan".toList then
    some (.float (String.ofList cs))
  else if isDate cs then some (.date (String.ofList cs))
  else (integerOfWord? cs).or (floatOfWord? cs)

end Colloquy.Toml
