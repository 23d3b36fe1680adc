import Colloquy.Instant
import Colloquy.Instant.Calendar
import Colloquy.Text.Case

/-!
# Reading instants

`Instant.read?` takes a date, a letter `T` or a space, a time and a zone. It is liberal about
blanks between the parts and about leading zeros, and it takes any offset of less than a day, which
is applied and then forgotten. Second 60 is a leap second; digits after the ninth of a fraction are
dropped.
-/

namespace Colloquy.Instant

open Text (trimStart isBlank)

/-- Reads at least one digit and at most `width`. -/
def digits? (width : Nat) (cs : List Char) : Option (Nat × List Char) :=
  let run := (cs.take width).takeWhile Char.isDigit
  (Decimal.read? run).map fun n => (n, cs.drop run.length)

/-- Reads a number of one or two digits after white space. -/
def twoDigits? (cs : List Char) : Option (Nat × List Char) :=
  digits? 2 (trimStart cs)

/-- Reads a year after white space: up to four digits, or any number of them after a sign. -/
def year? (cs : List Char) : Option (Int × List Char) :=
  match trimStart cs with
  | '-' :: rest => (digits? rest.length rest).map fun (n, rest) => (-(n : Int), rest)
  | '+' :: rest => (digits? rest.length rest).map fun (n, rest) => ((n : Int), rest)
  | rest => (digits? 4 rest).map fun (n, rest) => ((n : Int), rest)

/-- Reads one mark after white space. -/
def mark? (mark : Char) (cs : List Char) : Option (List Char) :=
  match trimStart cs with
  | c :: rest => if c = mark then some rest else none
  | [] => none

/-- Reads what separates date and time: the letter T in either case, or a space. -/
def separator? : List Char → Option (List Char)
  | c :: rest => if c = 'T' ∨ c = 't' ∨ c = ' ' then some rest else none
  | [] => none

/-- Reads the nanoseconds of a fraction, if the text goes on with a point. -/
def fraction? : List Char → Option (Nat × List Char)
  | '.' :: rest =>
    match digits? 9 rest with
    | some (n, left) =>
      some (n * Nat.pow 10 (9 - (rest.length - left.length)), left.dropWhile Char.isDigit)
    | none => none
  | cs => some (0, cs)

/-- Reads exactly two digits. -/
def pair? : List Char → Option (Nat × List Char)
  | a :: b :: rest => do
    return ((← Decimal.digit? a) * 10 + (← Decimal.digit? b), rest)
  | _ => none

/-- Reads hours and minutes of an offset, with colons or blanks between them, as seconds. -/
def offsetSize? (cs : List Char) : Option (Nat × List Char) := do
  let (hours, cs) ← pair? cs
  let (minutes, cs) ← pair? (cs.dropWhile fun c => c = ':' || isBlank c)
  if hours < 24 ∧ minutes < 60 then return (hours * 3600 + minutes * 60, cs) else none

/-- Reads a zone after white space, as the seconds by which it is ahead: the letters `UTC` or `Z`,
or an offset with its sign. -/
def zone? (cs : List Char) : Option (Int × List Char) :=
  let cs := trimStart cs
  if (cs.take 3).map Char.toUpper = ['U', 'T', 'C'] then some (0, cs.drop 3)
  else match cs with
    | 'Z' :: rest => some (0, rest)
    | 'z' :: rest => some (0, rest)
    | '+' :: rest => (offsetSize? rest).map fun (n, rest) => ((n : Int), rest)
    | '-' :: rest => (offsetSize? rest).map fun (n, rest) => (-(n : Int), rest)
    | '\u2212' :: rest => (offsetSize? rest).map fun (n, rest) => (-(n : Int), rest)
    | _ => none

/-- The instant at a date, a time of day and an offset, if there is one. -/
def assemble? (date : Calendar.Date) (hour minute second nanos : Nat) (offset : Int) :
    Option Instant := do
  let day ← Calendar.dayOf? date
  if -96465292 ≤ day ∧ day ≤ 95026236 ∧ hour < 24 ∧ minute < 60 ∧ second ≤ 60 then
    let leap := second / 60
    ofParts? (day * 86400 + (hour * 3600 + minute * 60 + (second - leap) : Nat) - offset)
      (nanos + leap * nanosPerSecond)
  else none

/-- Reads an instant. -/
def readChars? (cs : List Char) : Option Instant := do
  let (year, cs) ← year? cs
  let cs ← mark? '-' cs
  let (month, cs) ← twoDigits? cs
  let cs ← mark? '-' cs
  let (day, cs) ← twoDigits? cs
  let cs ← separator? cs
  let (hour, cs) ← twoDigits? cs
  let cs ← mark? ':' cs
  let (minute, cs) ← twoDigits? cs
  let cs ← mark? ':' cs
  let (second, cs) ← twoDigits? cs
  let (nanos, cs) ← fraction? cs
  let (offset, cs) ← zone? cs
  if (trimStart cs).isEmpty then assemble? ⟨year, month, day⟩ hour minute second nanos offset
  else none

/-- Reads an instant from a string. -/
def read? (s : String) : Option Instant :=
  readChars? s.toList

end Colloquy.Instant
