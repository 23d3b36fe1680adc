import Colloquy.Instant.Format
import Colloquy.Instant.Parse
import Colloquy.Proofs.Instant.Calendar
import Colloquy.Proofs.Json.Number

/-!
# Instants that are read back

The written form of an instant is read as the instant that it names (`Instant.read?_text`): years of
any size, with a sign outside of 0 to 9999, fractions of three, six or nine digits or none, and leap
seconds at the end of a minute. Each scanner takes back what was written for it and leaves what
follows. The other way round, what is read of a text is an instant that its own written form names
(`Instant.leapEndsMinute_of_read?`): a fraction is less than a second, and an offset is one of whole
minutes, so that second 60 ends a minute here as well.
-/

namespace Colloquy

open Json (IsDigits NoDigit isDigits_toDigits isDigit_of_mem_replicate)

/-! ### Digits -/

namespace Decimal

/-- Digits go on to be read as their number. -/
lemma continue?_eq {cs : List Char} (hcs : ∀ c ∈ cs, c.isDigit = true) (acc : Nat) :
    continue? acc cs = some (Nat.ofDigitChars 10 cs acc) := by
  induction cs generalizing acc with
  | nil => rfl
  | cons c rest ih =>
    have hc : c.isDigit = true := hcs c List.mem_cons_self
    rw [continue?, digit?, if_pos hc, Option.bind_some, Nat.ofDigitChars_cons, Nat.mul_comm 10]
    exact ih (fun c hc => hcs c (List.mem_cons_of_mem _ hc)) _

/-- Digits are read as the number that they write. -/
lemma read?_eq {ds : List Char} (hds : IsDigits ds) :
    read? ds = some (Nat.ofDigitChars 10 ds 0) := by
  obtain ⟨hne, hdigits⟩ := hds
  cases ds with
  | nil => exact absurd rfl hne
  | cons c rest => exact continue?_eq hdigits 0

end Decimal

namespace Instant

open Text (trimStart isBlank)

/-- A padded number is made of digits. -/
lemma isDigits_padded (width n : Nat) : IsDigits (padded width n) := by
  refine ⟨List.append_ne_nil_of_right_ne_nil _ (isDigits_toDigits n).1, fun c hc => ?_⟩
  rcases List.mem_append.mp hc with hzero | hdigit
  · exact isDigit_of_mem_replicate hzero
  · exact (isDigits_toDigits n).2 c hdigit

/-- Zeros in front do not change a number. -/
lemma ofDigitChars_padded (width n : Nat) : Nat.ofDigitChars 10 (padded width n) 0 = n := by
  rw [padded, Nat.ofDigitChars_append, Nat.ofDigitChars_replicate_zero, Nat.mul_zero,
    Nat.ofDigitChars_ten_toDigits]

/-- A number that fits a width is written in this width. -/
lemma length_padded {width n : Nat} (hwidth : 0 < width) (hn : n < 10 ^ width) :
    (padded width n).length = width := by
  have hlength : (Nat.toDigits 10 n).length ≤ width :=
    (Nat.length_toDigits_le_iff (by decide) hwidth).mpr hn
  rw [padded, List.length_append, List.length_replicate]
  omega

/-- A digit is not blank. -/
lemma isBlank_of_isDigit {c : Char} (hc : c.isDigit = true) : isBlank c = false := by
  simp only [Char.isDigit, Bool.and_eq_true, decide_eq_true_eq] at hc
  have hlow : 48 ≤ c.toNat := hc.1
  have hhigh : c.toNat ≤ 57 := hc.2
  simp only [isBlank, Bool.or_eq_false_iff, Bool.and_eq_false_iff, decide_eq_false_iff_not,
    beq_eq_false_iff_ne]
  omega

/-- Nothing is trimmed in front of a sign that is not blank. -/
lemma trimStart_cons {c : Char} (hc : isBlank c = false) (rest : List Char) :
    trimStart (c :: rest) = c :: rest := by
  rw [trimStart, List.dropWhile_cons_of_neg (by simp [hc])]

/-- Nothing is trimmed in front of digits. -/
lemma trimStart_digits {ds : List Char} (hds : IsDigits ds) (rest : List Char) :
    trimStart (ds ++ rest) = ds ++ rest := by
  obtain ⟨hne, hdigits⟩ := hds
  cases ds with
  | nil => exact absurd rfl hne
  | cons c more => exact trimStart_cons (isBlank_of_isDigit (hdigits c List.mem_cons_self)) _

/-- Digits are read up to the end of the width or to the first character that is none. -/
lemma digits?_append {width : Nat} {ds rest : List Char} (hds : IsDigits ds)
    (hwidth : ds.length = width ∨ ds.length ≤ width ∧ NoDigit rest) :
    digits? width (ds ++ rest) = some (Nat.ofDigitChars 10 ds 0, rest) := by
  have hrun : ((ds ++ rest).take width).takeWhile Char.isDigit = ds := by
    rcases hwidth with rfl | ⟨hle, hrest⟩
    · rw [List.take_left]
      exact List.takeWhile_eq_self_iff.mpr hds.2
    · rw [List.take_append, List.take_of_length_le hle, List.takeWhile_append_of_pos hds.2]
      cases rest with
      | nil => simp
      | cons c more =>
        cases width - ds.length with
        | zero => simp
        | succ k => simp [hrest c rfl]
  rw [digits?]
  simp only [hrun, Decimal.read?_eq hds, Option.map_some, List.drop_left]

/-- What follows a number may be anything, if the number fills the width of its field. -/
lemma twoDigits?_padded {n : Nat} (hn : n < 100) (rest : List Char) :
    twoDigits? (padded 2 n ++ rest) = some (n, rest) := by
  have hdigits := isDigits_padded 2 n
  rw [twoDigits?, trimStart_digits hdigits, digits?_append hdigits (.inl (length_padded (by decide)
    hn)), ofDigitChars_padded]

/-- A mark that is not blank is read off. -/
lemma mark?_cons {mark : Char} (hmark : isBlank mark = false) (rest : List Char) :
    mark? mark (mark :: rest) = some rest := by
  unfold mark?
  rw [trimStart_cons hmark]
  exact if_pos rfl

/-! ### Years -/

/-- A year without a sign has four digits at most. -/
lemma year?_of_isDigits {ds rest : List Char} (hds : IsDigits ds) :
    year? (ds ++ rest) = (digits? 4 (ds ++ rest)).map fun (n, rest) => ((n : Int), rest) := by
  have hfirst : ∀ c more, ds ++ rest = c :: more → c.isDigit = true := by
    intro c more heq
    obtain ⟨hne, hdigits⟩ := hds
    cases ds with
    | nil => exact absurd rfl hne
    | cons d ds => exact (List.cons.inj heq).1 ▸ hdigits d List.mem_cons_self
  unfold year?
  rw [trimStart_digits hds]
  split
  next heq => exact absurd (hfirst _ _ heq) (by decide)
  next heq => exact absurd (hfirst _ _ heq) (by decide)
  next => rfl

/-- A minus is followed by the digits of a negative year. -/
lemma year?_minus (rest : List Char) : year? ('-' :: rest) =
    (digits? rest.length rest).map fun (n, rest) => (-(n : Int), rest) := rfl

/-- A plus is followed by the digits of a year. -/
lemma year?_plus (rest : List Char) : year? ('+' :: rest) =
    (digits? rest.length rest).map fun (n, rest) => ((n : Int), rest) := rfl

/-- The digits of a year with a sign go on to the mark behind it. -/
lemma digits?_signed (n : Nat) (rest : List Char) :
    digits? (padded 4 n ++ '-' :: rest).length (padded 4 n ++ '-' :: rest) =
      some (n, '-' :: rest) := by
  have hmark : NoDigit ('-' :: rest) := by
    intro c hc
    obtain rfl := Option.some.inj hc
    rfl
  have hwidth : (padded 4 n).length ≤ (padded 4 n ++ '-' :: rest).length := by
    rw [List.length_append]
    omega
  rw [digits?_append (isDigits_padded 4 n) (.inr ⟨hwidth, hmark⟩), ofDigitChars_padded]

/-- A year is read back, whatever its size. -/
lemma year?_yearChars (year : Int) (rest : List Char) :
    year? (yearChars year ++ '-' :: rest) = some (year, '-' :: rest) := by
  unfold yearChars
  by_cases hplain : 0 ≤ year ∧ year ≤ 9999
  · have hfour : (padded 4 year.toNat).length = 4 := length_padded (by decide) (by omega)
    rw [if_pos hplain, year?_of_isDigits (isDigits_padded _ _),
      digits?_append (isDigits_padded _ _) (.inl hfour), ofDigitChars_padded, Option.map_some]
    simp only [Int.toNat_of_nonneg hplain.1]
  · rw [if_neg hplain, List.cons_append]
    by_cases hneg : year < 0
    · have hyear : -(year.natAbs : Int) = year := by omega
      rw [if_pos hneg, year?_minus, digits?_signed, Option.map_some]
      simp only [hyear]
    · have hyear : (year.natAbs : Int) = year := by omega
      rw [if_neg hneg, year?_plus, digits?_signed, Option.map_some]
      simp only [hyear]

/-! ### Fractions and zones -/

/-- A fraction of fewer than nine digits is counted in nanoseconds. -/
lemma fraction?_padded {width n : Nat} (hwidth : 0 < width) (hle : width ≤ 9)
    (hn : n < 10 ^ width) :
    fraction? ('.' :: padded width n ++ ['Z']) = some (n * 10 ^ (9 - width), ['Z']) := by
  have hlength := length_padded hwidth hn
  have hend : NoDigit ['Z'] := by
    intro c hc
    obtain rfl := Option.some.inj hc
    rfl
  rw [List.cons_append, fraction?]
  rw [digits?_append (isDigits_padded width n) (.inr ⟨hlength.trans_le hle, hend⟩),
    ofDigitChars_padded]
  dsimp only
  rw [List.length_append, hlength, Nat.add_sub_cancel]
  rfl

/-- A fraction is read back: each of its formats is exact. -/
lemma fraction?_fractionChars {nanos : Nat} (h : nanos < nanosPerSecond) :
    fraction? (fractionChars nanos ++ ['Z']) = some (nanos, ['Z']) := by
  unfold nanosPerSecond at h
  unfold fractionChars
  split_ifs with hzero hmillis hmicros
  · obtain rfl := hzero
    rfl
  · rw [fraction?_padded (by decide) (by decide) (by omega)]
    have hexact : nanos / 1000000 * 10 ^ (9 - 3) = nanos := by omega
    rw [hexact]
  · rw [fraction?_padded (by decide) (by decide) (by omega)]
    have hexact : nanos / 1000 * 10 ^ (9 - 6) = nanos := by omega
    rw [hexact]
  · rw [fraction?_padded (by decide) (by decide) h]
    have hexact : nanos * 10 ^ (9 - 9) = nanos := by omega
    rw [hexact]

/-! ### Dates and times -/

/-- An instant is its own written form exactly if a leap second ends a minute. -/
lemma asWritten_eq_self_iff {t : Instant} : t.asWritten = t ↔ t.LeapEndsMinute := by
  unfold asWritten LeapEndsMinute
  split
  next h =>
    refine iff_of_false (fun heq => ?_) fun hminute => h.2 (hminute h.1)
    have hseconds := congrArg seconds heq
    dsimp only at hseconds
    omega
  next h => exact iff_of_true rfl fun hpast => by_contra fun hwithin => h ⟨hpast, hwithin⟩

/-- An instant and the one that its text names have one text. -/
lemma text_asWritten (t : Instant) : t.asWritten.text = t.text := by
  unfold asWritten
  split
  next h =>
    obtain ⟨hpast, hwithin⟩ := h
    have hlt := t.nanos_lt
    have hday : (t.seconds + 1) / 86400 = t.seconds / 86400 := by omega
    have hhour : ((t.seconds + 1) % 86400).toNat / 3600 = (t.seconds % 86400).toNat / 3600 := by
      omega
    have hminute : ((t.seconds + 1) % 86400).toNat / 60 % 60 =
        (t.seconds % 86400).toNat / 60 % 60 := by
      omega
    have hsecond : ((t.seconds + 1) % 86400).toNat % 60 +
        (t.nanos - nanosPerSecond) / nanosPerSecond =
          (t.seconds % 86400).toNat % 60 + t.nanos / nanosPerSecond := by
      unfold nanosPerSecond at *
      omega
    have hfraction : (t.nanos - nanosPerSecond) % nanosPerSecond = t.nanos % nanosPerSecond := by
      unfold nanosPerSecond at *
      omega
    simp only [text, chars, dateChars, timeChars, hday, hhour, hminute, hsecond, hfraction]
  next => rfl

/-- An instant is put together from the date, the time of day and the nanoseconds that are written
for it. The second is 60 exactly if the nanoseconds run past the last second of a minute; past
another second they run into the second after it. -/
lemma assemble?_parts (t : Instant) :
    let inDay := (t.seconds % 86400).toNat
    assemble? (Calendar.dateOf (t.seconds / 86400)) (inDay / 3600) (inDay / 60 % 60)
      (inDay % 60 + t.nanos / nanosPerSecond) (t.nanos % nanosPerSecond) 0 = some t.asWritten := by
  intro inDay
  obtain ⟨seconds, nanos, hnanos, hrange⟩ := t
  have hinDay : (inDay : Int) = seconds % 86400 := Int.toNat_of_nonneg (by omega)
  clear_value inDay
  have hbounds : -96465292 ≤ seconds / 86400 ∧ seconds / 86400 ≤ 95026236 ∧ inDay / 3600 < 24 ∧
      inDay / 60 % 60 < 60 ∧ inDay % 60 + nanos / nanosPerSecond ≤ 60 := by
    unfold nanosPerSecond at *
    omega
  unfold assemble?
  rw [Calendar.dayOf?_dateOf, Option.bind_eq_bind, Option.bind_some, if_pos hbounds]
  dsimp only [asWritten]
  split
  next hwithin =>
    have hpast : nanos / nanosPerSecond = 1 := by
      unfold nanosPerSecond at *
      omega
    have hleap : (inDay % 60 + nanos / nanosPerSecond) / 60 = 0 := by omega
    have hseconds : seconds / 86400 * 86400 + ((inDay / 3600 * 3600 + inDay / 60 % 60 * 60 +
        (inDay % 60 + nanos / nanosPerSecond - 0) : Nat) : Int) - 0 = seconds + 1 := by omega
    have hrest : nanos % nanosPerSecond + 0 * nanosPerSecond = nanos - nanosPerSecond := by
      unfold nanosPerSecond at *
      omega
    have hnext : nanos - nanosPerSecond < 2 * nanosPerSecond ∧ -8334601228800 ≤ seconds + 1 ∧
        seconds + 1 ≤ 8210266876799 := by omega
    rw [hleap, hseconds, hrest, ofParts?, dif_pos hnext]
  next hended =>
    have hleap : (inDay % 60 + nanos / nanosPerSecond) / 60 = nanos / nanosPerSecond := by
      unfold nanosPerSecond at *
      omega
    have hseconds : seconds / 86400 * 86400 + ((inDay / 3600 * 3600 + inDay / 60 % 60 * 60 +
        (inDay % 60 + nanos / nanosPerSecond - nanos / nanosPerSecond) : Nat) : Int) - 0 =
          seconds := by omega
    have hnanos' : nanos % nanosPerSecond + nanos / nanosPerSecond * nanosPerSecond = nanos :=
      Nat.mod_add_div' nanos nanosPerSecond
    rw [hleap, hseconds, hnanos', ofParts?, dif_pos ⟨hnanos, hrange⟩]

/-- The written form of an instant is read as the instant that it names. -/
theorem readChars?_chars (t : Instant) : readChars? t.chars = some t.asWritten := by
  obtain ⟨⟨-, hmonth⟩, -, hday⟩ := Calendar.dateOf_bounds (t.seconds / 86400)
  have hsecond : (t.seconds % 86400).toNat % 60 + t.nanos / nanosPerSecond < 100 := by
    have := t.nanos_lt
    unfold nanosPerSecond at *
    omega
  have hmonth' : (Calendar.dateOf (t.seconds / 86400)).month < 100 := by omega
  have hday' : (Calendar.dateOf (t.seconds / 86400)).day < 100 := by omega
  have hhour : (t.seconds % 86400).toNat / 3600 < 100 := by omega
  have hminute : (t.seconds % 86400).toNat / 60 % 60 < 100 := by omega
  have hnanos : t.nanos % nanosPerSecond < nanosPerSecond := Nat.mod_lt _ (by decide)
  have hdash : ∀ rest, mark? '-' ('-' :: rest) = some rest := mark?_cons rfl
  have hcolon : ∀ rest, mark? ':' (':' :: rest) = some rest := mark?_cons rfl
  have hseparator : ∀ rest, separator? ('T' :: rest) = some rest := fun _ => rfl
  have hzone : zone? ['Z'] = some (0, []) := rfl
  simp only [chars, dateChars, timeChars, List.append_assoc, List.cons_append]
  -- the steps of reading one after another, each with what was written for it
  rw [readChars?, year?_yearChars, Option.bind_eq_bind, Option.bind_some]
  dsimp only
  rw [hdash, Option.bind_eq_bind, Option.bind_some, twoDigits?_padded hmonth',
    Option.bind_eq_bind, Option.bind_some, hdash, Option.bind_some, twoDigits?_padded hday',
    Option.bind_some, hseparator, Option.bind_some,
    twoDigits?_padded hhour, Option.bind_some, hcolon, Option.bind_some,
    twoDigits?_padded hminute, Option.bind_some, hcolon, Option.bind_some,
    twoDigits?_padded hsecond, Option.bind_some, fraction?_fractionChars hnanos,
    Option.bind_some, hzone, Option.bind_some]
  exact assemble?_parts t

/-- The text of an instant is read as the instant that it names. -/
theorem read?_text (t : Instant) : read? t.text = some t.asWritten := by
  rw [read?, text, String.toList_ofList, readChars?_chars]

/-! ### Instants that are read -/

/-- The number that digits give has no more digits than were read. -/
lemma lt_of_digits? {width n : Nat} {cs rest : List Char}
    (h : digits? width cs = some (n, rest)) :
    rest.length ≤ cs.length ∧ cs.length - rest.length ≤ width ∧
      n < 10 ^ (cs.length - rest.length) := by
  obtain ⟨m, hread, heq⟩ := Option.map_eq_some_iff.mp h
  obtain ⟨rfl, rfl⟩ := Prod.mk.inj heq
  have hdigits : ∀ c ∈ (cs.take width).takeWhile Char.isDigit, c.isDigit = true :=
    fun c hc => List.mem_takeWhile_imp hc
  have hlength : ((cs.take width).takeWhile Char.isDigit).length ≤ min width cs.length :=
    (List.takeWhile_sublist _).length_le.trans_eq List.length_take
  generalize (cs.take width).takeWhile Char.isDigit = run at *
  have hne : run ≠ [] := by
    rintro rfl
    simp [Decimal.read?] at hread
  rw [Decimal.read?_eq ⟨hne, hdigits⟩] at hread
  obtain rfl := Option.some.inj hread
  have hrun : cs.length - (cs.drop run.length).length = run.length := by
    rw [List.length_drop]
    omega
  rw [hrun]
  exact ⟨by simp, by omega, Json.ofDigitChars_lt hdigits⟩

/-- A fraction is less than a second. -/
lemma lt_of_fraction? {nanos : Nat} {cs rest : List Char}
    (h : fraction? cs = some (nanos, rest)) : nanos < nanosPerSecond := by
  unfold fraction? at h
  split at h
  next digits =>
    split at h
    next n left hdigits =>
      obtain ⟨-, hwidth, hlt⟩ := lt_of_digits? hdigits
      obtain ⟨rfl, -⟩ := Prod.mk.inj (Option.some.inj h)
      generalize digits.length - left.length = k at *
      calc n * 10 ^ (9 - k) < 10 ^ k * 10 ^ (9 - k) :=
            Nat.mul_lt_mul_of_pos_right hlt (by positivity)
        _ = nanosPerSecond := by rw [← Nat.pow_add, Nat.add_sub_of_le hwidth]; rfl
    next => simp at h
  next =>
    obtain ⟨rfl, -⟩ := Prod.mk.inj (Option.some.inj h)
    decide

/-- An offset is one of whole minutes. -/
lemma dvd_of_offsetSize? {n : Nat} {cs rest : List Char}
    (h : offsetSize? cs = some (n, rest)) : 60 ∣ n := by
  simp only [offsetSize?, Option.bind_eq_bind, Option.bind_eq_some_iff] at h
  obtain ⟨⟨hours, cs'⟩, -, ⟨minutes, cs''⟩, -, h⟩ := h
  split at h
  · obtain ⟨rfl, -⟩ := Prod.mk.inj (Option.some.inj h)
    omega
  · simp at h

/-- A zone is ahead by whole minutes. -/
lemma dvd_of_zone? {offset : Int} {cs rest : List Char} (h : zone? cs = some (offset, rest)) :
    60 ∣ offset := by
  unfold zone? at h
  dsimp only at h
  split at h
  · obtain ⟨rfl, -⟩ := Prod.mk.inj (Option.some.inj h)
    exact dvd_zero 60
  · split at h
    · obtain ⟨rfl, -⟩ := Prod.mk.inj (Option.some.inj h)
      exact dvd_zero 60
    · obtain ⟨rfl, -⟩ := Prod.mk.inj (Option.some.inj h)
      exact dvd_zero 60
    · obtain ⟨⟨n, left⟩, hsize, heq⟩ := Option.map_eq_some_iff.mp h
      obtain ⟨rfl, -⟩ := Prod.mk.inj heq
      exact Int.natCast_dvd_natCast.mpr (dvd_of_offsetSize? hsize)
    · obtain ⟨⟨n, left⟩, hsize, heq⟩ := Option.map_eq_some_iff.mp h
      obtain ⟨rfl, -⟩ := Prod.mk.inj heq
      exact (Int.natCast_dvd_natCast.mpr (dvd_of_offsetSize? hsize)).neg_right
    · obtain ⟨⟨n, left⟩, hsize, heq⟩ := Option.map_eq_some_iff.mp h
      obtain ⟨rfl, -⟩ := Prod.mk.inj heq
      exact (Int.natCast_dvd_natCast.mpr (dvd_of_offsetSize? hsize)).neg_right
    · simp at h

/-- A time of day whose fraction is less than a second, at an offset of whole minutes, lies within a
leap second only if its second is 60. -/
lemma leapEndsMinute_of_assemble? {date : Calendar.Date} {hour minute second nanos : Nat}
    {offset : Int} {t : Instant} (hnanos : nanos < nanosPerSecond) (hoffset : 60 ∣ offset)
    (h : assemble? date hour minute second nanos offset = some t) : t.LeapEndsMinute := by
  obtain ⟨day, -, h⟩ := Option.bind_eq_some_iff.mp h
  split at h
  next hbounds =>
    unfold ofParts? at h
    dsimp only at h
    split at h
    next =>
      obtain rfl := Option.some.inj h
      unfold LeapEndsMinute nanosPerSecond at *
      dsimp only
      omega
    next => simp at h
  next => simp at h

/-- What is read of a text lies within a leap second only at the end of a minute. -/
theorem leapEndsMinute_of_readChars? {cs : List Char} {t : Instant}
    (h : readChars? cs = some t) : t.LeapEndsMinute := by
  -- the steps of reading one after another, of which only the fraction and the zone matter
  obtain ⟨⟨year, _⟩, -, h⟩ := Option.bind_eq_some_iff.mp h
  obtain ⟨_, -, h⟩ := Option.bind_eq_some_iff.mp h
  obtain ⟨⟨month, _⟩, -, h⟩ := Option.bind_eq_some_iff.mp h
  obtain ⟨_, -, h⟩ := Option.bind_eq_some_iff.mp h
  obtain ⟨⟨day, _⟩, -, h⟩ := Option.bind_eq_some_iff.mp h
  obtain ⟨_, -, h⟩ := Option.bind_eq_some_iff.mp h
  obtain ⟨⟨hour, _⟩, -, h⟩ := Option.bind_eq_some_iff.mp h
  obtain ⟨_, -, h⟩ := Option.bind_eq_some_iff.mp h
  obtain ⟨⟨minute, _⟩, -, h⟩ := Option.bind_eq_some_iff.mp h
  obtain ⟨_, -, h⟩ := Option.bind_eq_some_iff.mp h
  obtain ⟨⟨second, _⟩, -, h⟩ := Option.bind_eq_some_iff.mp h
  obtain ⟨⟨nanos, _⟩, hnanos, h⟩ := Option.bind_eq_some_iff.mp h
  obtain ⟨⟨offset, _⟩, hoffset, h⟩ := Option.bind_eq_some_iff.mp h
  dsimp only at h
  split at h
  next => exact leapEndsMinute_of_assemble? (lt_of_fraction? hnanos) (dvd_of_zone? hoffset) h
  next => simp at h

/-- What is read of a string comes back from its own text. -/
theorem leapEndsMinute_of_read? {s : String} {t : Instant} (h : read? s = some t) :
    t.LeapEndsMinute :=
  leapEndsMinute_of_readChars? h

end Instant

end Colloquy
