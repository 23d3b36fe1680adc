import Colloquy.Instant
import Colloquy.Instant.Calendar

/-!
# Writing instants

An instant is written as date, time and zone (`Instant.chars`): `2024-01-02T03:04:05.678Z`. The
fraction has three, six or nine digits, the fewest that are exact, or is left out; a year outside 0
to 9999 carries a sign; a leap second is second 60. Within a minute that does not go on to second 60
a leap second has no form of its own, and is written like the second after it
(`Instant.asWritten`). Messages use blanks instead of the two letters (`Instant.display`).
-/

namespace Colloquy.Instant

/-- A number with zeros in front, so that it has at least `width` digits. -/
def padded (width n : Nat) : List Char :=
  let digits := Nat.toDigits 10 n
  List.replicate (width - digits.length) '0' ++ digits

/-- A year of at least four digits, with a sign if it is outside 0 to 9999. -/
def yearChars (year : Int) : List Char :=
  if 0 ≤ year ∧ year ≤ 9999 then padded 4 year.toNat
  else (if year < 0 then '-' else '+') :: padded 4 year.natAbs

/-- The fraction of a second: three, six or nine digits, or nothing. -/
def fractionChars (nanos : Nat) : List Char :=
  if nanos = 0 then []
  else if nanos % 1000000 = 0 then '.' :: padded 3 (nanos / 1000000)
  else if nanos % 1000 = 0 then '.' :: padded 6 (nanos / 1000)
  else '.' :: padded 9 nanos

/-- The date of an instant. -/
def dateChars (t : Instant) : List Char :=
  let date := Calendar.dateOf (t.seconds / 86400)
  yearChars date.year ++ '-' :: padded 2 date.month ++ '-' :: padded 2 date.day

/-- The time of day of an instant. -/
def timeChars (t : Instant) : List Char :=
  let inDay := (t.seconds % 86400).toNat
  let second := inDay % 60 + t.nanos / nanosPerSecond
  padded 2 (inDay / 3600) ++ ':' :: padded 2 (inDay / 60 % 60) ++ ':' :: padded 2 second ++
    fractionChars (t.nanos % nanosPerSecond)

/-- The written form of an instant. -/
def chars (t : Instant) : List Char :=
  t.dateChars ++ 'T' :: t.timeChars ++ ['Z']

/-- The written form of an instant as a string. -/
def text (t : Instant) : String :=
  String.ofList t.chars

/-- The instant that the written form names. The clock goes on to second 60 only at the end of a
minute; a leap second elsewhere is written as the second after it. -/
def asWritten (t : Instant) : Instant :=
  if h : nanosPerSecond ≤ t.nanos ∧ t.seconds % 60 ≠ 59 then
    { seconds := t.seconds + 1
      nanos := t.nanos - nanosPerSecond
      nanos_lt := by have := t.nanos_lt; omega
      inRange := by have := t.inRange; omega }
  else t

/-- An instant as messages show it. -/
def display (t : Instant) : String :=
  String.ofList (t.dateChars ++ ' ' :: t.timeChars ++ " UTC".toList)

end Colloquy.Instant
