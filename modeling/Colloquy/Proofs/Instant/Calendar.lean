import Mathlib.Tactic.Lemma
import Colloquy.Instant.Calendar

/-!
# Dates and the numbers of their days

Every day has a date and is the day of that date (`Calendar.dayNumber_dateOf`), before 1970 as well.
Within an era of 400 years a day is looked for in three steps: its year, its month in that year and
its day in that month. Each step leaves a rest that the next one can take.
-/

namespace Colloquy.Calendar

/-- The year that a day of an era lies in: the formula takes a day off for every leap year before
it, and its corrections for full centuries and for the last day of the era are those of the
calendar. The year is less than 400, and the day is one of the at most 366 days of the year. -/
lemma year_of_inEra {n : Nat} (hn : n < 146097) :
    let year := (n - n / 1460 + n / 36524 - n / 146096) / 365
    year ≤ 399 ∧ 365 * year + year / 4 ≤ n + year / 100 ∧
      n + year / 100 ≤ 365 * year + year / 4 + 365 := by
  intro year
  obtain ⟨q, hq⟩ : ∃ q, n / 1460 = q := ⟨_, rfl⟩
  obtain ⟨e, he⟩ : ∃ e, n / 36524 = e := ⟨_, rfl⟩
  obtain ⟨f, hf⟩ : ∃ f, n / 146096 = f := ⟨_, rfl⟩
  obtain ⟨c, hc⟩ : ∃ c, year / 100 = c := ⟨_, rfl⟩
  obtain ⟨d, hd⟩ : ∃ d, year / 4 = d := ⟨_, rfl⟩
  have hyear : 365 * year + q + f ≤ n + e ∧ n + e < 365 * year + 365 + q + f := by
    simp only [year, hq, he, hf]
    omega
  have hcentury : 100 * c ≤ year ∧ year < 100 * c + 100 := by omega
  have hfour : 4 * d ≤ year ∧ year < 4 * d + 4 := by omega
  have hbound : year ≤ 399 := by omega
  rw [hc, hd]
  clear_value year
  -- only the last day of an era is counted to a century that is not its own
  obtain rfl | ⟨rfl, hlast⟩ : e = c ∨ e = c + 1 ∧ 146096 ≤ n := by omega
  · have hlow : d ≤ q := by omega
    have hhigh : q ≤ d + 1 := by omega
    omega
  · obtain rfl : n = 146096 := by omega
    omega

/-- The month that a day of a year lies in, counted from March, and the day of the month. -/
lemma month_of_inYear {n : Nat} (hn : n ≤ 365) :
    let month := (5 * n + 2) / 153
    month ≤ 11 ∧ (153 * month + 2) / 5 ≤ n ∧ n ≤ (153 * month + 2) / 5 + 30 := by
  intro month
  omega

/-- A day by its era, its year in the era, its month from March and its place in the month, and the
date that is made of them. -/
lemma exists_parts (day : Int) :
    ∃ (era : Int) (year month inMonth : Nat), year ≤ 399 ∧ month ≤ 11 ∧ inMonth ≤ 30 ∧
      day = era * 146097 + (365 * year + year / 4 - year / 100 + (153 * month + 2) / 5 + inMonth :
        Nat) - 719468 ∧
      dateOf day = ⟨era * 400 + year + (if month < 10 then 0 else 1),
        if month < 10 then month + 3 else month - 9, inMonth + 1⟩ := by
  obtain ⟨n, hn⟩ : ∃ n, ((day + 719468) % 146097).toNat = n := ⟨_, rfl⟩
  have hera : n < 146097 := by omega
  obtain ⟨hyear, hstart, hend⟩ := year_of_inEra hera
  obtain ⟨year, hy⟩ : ∃ year, (n - n / 1460 + n / 36524 - n / 146096) / 365 = year := ⟨_, rfl⟩
  rw [hy] at hyear hstart hend
  obtain ⟨inYear, hin⟩ : ∃ inYear, n - (365 * year + year / 4 - year / 100) = inYear := ⟨_, rfl⟩
  obtain ⟨hmonth, hfirst, hlast⟩ := month_of_inYear (n := inYear) (by omega)
  refine ⟨(day + 719468) / 146097, year, (5 * inYear + 2) / 153,
    inYear - (153 * ((5 * inYear + 2) / 153) + 2) / 5, hyear, hmonth, by omega, by omega, ?_⟩
  simp only [dateOf, hn, hy, hin]

/-- The day of a date that is made of its parts. -/
lemma dayNumber_parts {era : Int} {year month inMonth : Nat} (hyear : year ≤ 399)
    (hmonth : month ≤ 11) :
    dayNumber ⟨era * 400 + year + (if month < 10 then 0 else 1),
        if month < 10 then month + 3 else month - 9, inMonth + 1⟩ =
      era * 146097 + (365 * year + year / 4 - year / 100 + (153 * month + 2) / 5 + inMonth : Nat) -
        719468 := by
  unfold dayNumber
  dsimp only
  by_cases hlate : month < 10
  · have hmarch : ¬month + 3 ≤ 2 := by omega
    simp only [hlate, hmarch, if_true, if_false]
    omega
  · have hmarch : month - 9 ≤ 2 := by omega
    simp only [hlate, hmarch, if_true, if_false]
    omega

/-- A date has one of twelve months and one of at most 31 days. -/
lemma dateOf_bounds (day : Int) :
    (1 ≤ (dateOf day).month ∧ (dateOf day).month ≤ 12) ∧
      1 ≤ (dateOf day).day ∧ (dateOf day).day ≤ 31 := by
  obtain ⟨era, year, month, inMonth, -, hmonth, hday, -, hdate⟩ := exists_parts day
  rw [hdate]
  dsimp only
  split
  · omega
  · omega

/-- A day is the day of its date. -/
theorem dayNumber_dateOf (day : Int) : dayNumber (dateOf day) = day := by
  obtain ⟨era, year, month, inMonth, hyear, hmonth, -, hday, hdate⟩ := exists_parts day
  rw [hdate, dayNumber_parts hyear hmonth, ← hday]

/-- The date of a day exists. -/
lemma dayOf?_dateOf (day : Int) : dayOf? (dateOf day) = some day := by
  rw [dayOf?, dayNumber_dateOf, if_pos rfl]

end Colloquy.Calendar
