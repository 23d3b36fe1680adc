/-!
# Days and dates

Days are numbered from the first day of 1970, and dates are those of the Gregorian calendar extended
in both directions. `Calendar.dateOf` gives the date of a day and `Calendar.dayNumber` goes back; a
date exists when it is the date of its own day number (`Calendar.dayOf?`). Years are counted from
March here, so that the leap day is the last day of its year.
-/

namespace Colloquy.Calendar

/-- A year, a month from 1 to 12 and a day from 1 on. -/
structure Date where
  year : Int
  month : Nat
  day : Nat
  deriving DecidableEq, Repr

/-- The date of a day. -/
def dateOf (day : Int) : Date :=
  let shifted := day + 719468
  let era := shifted / 146097
  let inEra := (shifted % 146097).toNat
  let year := (inEra - inEra / 1460 + inEra / 36524 - inEra / 146096) / 365
  let inYear := inEra - (365 * year + year / 4 - year / 100)
  let month := (5 * inYear + 2) / 153
  { year := era * 400 + year + (if month < 10 then 0 else 1)
    month := if month < 10 then month + 3 else month - 9
    day := inYear - (153 * month + 2) / 5 + 1 }

/-- The number of the day with the given date. -/
def dayNumber (date : Date) : Int :=
  let year := date.year - (if date.month ≤ 2 then 1 else 0)
  let era := year / 400
  let inEra := year % 400
  let month := if date.month ≤ 2 then date.month + 9 else date.month - 3
  let inYear : Int := ((153 * month + 2) / 5 : Nat) + date.day - 1
  era * 146097 + (inEra * 365 + inEra / 4 - inEra / 100 + inYear) - 719468

/-- The day with the given date, if the date exists. -/
def dayOf? (date : Date) : Option Int :=
  if dateOf (dayNumber date) = date then some (dayNumber date) else none

end Colloquy.Calendar
