import Mathlib.Data.List.DropRight
import Colloquy.Json
import Colloquy.Proofs.Binary64.Shortest
import Colloquy.Proofs.Json.Token
import Colloquy.Proofs.Text.Decimal

/-!
# Numbers that are read back

Whole numbers of 64 bits are read back from their digits (`ofNumeral?_int`). How a double is written
is a number that is read as a double (`readAsDouble_floatNumeral`), though not always as the same
one: its digits are those of a shortest decimal, and the roundings on the way back can end next to
the double, but never beyond the largest one.
-/

namespace Colloquy.Json

/-! ### Digits -/

/-- A number is written in digits. -/
lemma isDigits_toDigits (n : Nat) : IsDigits (Nat.toDigits 10 n) :=
  ⟨Nat.toDigits_ne_nil, fun _ hc => Nat.isDigit_of_mem_toDigits (by decide) (by decide) hc⟩

/-- A positive number does not start with zero. -/
lemma head?_toDigits_ne_zero {n : Nat} (hn : 0 < n) : (Nat.toDigits 10 n).head? ≠ some '0' := by
  induction n using Nat.strong_induction_on with
  | _ n ih =>
    rw [Nat.toDigits_eq_if (by decide)]
    split
    next hsmall =>
      have hdigit : ∀ n < 10, 0 < n → [Nat.digitChar n].head? ≠ some '0' := by decide
      exact hdigit n hsmall hn
    next hlarge =>
      rw [List.head?_append_of_ne_nil _ Nat.toDigits_ne_nil]
      exact ih (n / 10) (by omega) (by omega)

/-- A number is written as zero or does not begin with zero. -/
lemma whole_toDigits (n : Nat) : Nat.toDigits 10 n = ['0'] ∨
    IsDigits (Nat.toDigits 10 n) ∧ (Nat.toDigits 10 n).head? ≠ some '0' := by
  rcases Nat.eq_zero_or_pos n with rfl | hn
  · exact .inl rfl
  · exact .inr ⟨isDigits_toDigits n, head?_toDigits_ne_zero hn⟩

/-- The significand that is read stays within 64 bits. -/
lemma significandOf_lt (acc : Nat) (cs : List Char) (hacc : acc < 2 ^ 64) :
    (significandOf acc cs).1 < 2 ^ 64 := by
  induction cs generalizing acc with
  | nil => exact hacc
  | cons c rest ih =>
    rw [significandOf]
    split
    next hnext => exact ih _ hnext
    next => exact hacc

/-- Digits are read to their end, if their value has 64 bits. -/
lemma significandOf_eq (acc : Nat) (cs : List Char) (h : Nat.ofDigitChars 10 cs acc < 2 ^ 64) :
    significandOf acc cs = (Nat.ofDigitChars 10 cs acc, []) := by
  induction cs generalizing acc with
  | nil => rfl
  | cons c rest ih =>
    rw [Nat.ofDigitChars_cons, Nat.mul_comm 10] at h
    have hnext : acc * 10 + digitValue c < Nat.pow 2 64 :=
      (Decimal.le_ofDigitChars rest _).trans_lt h
    rw [significandOf, if_pos hnext, Nat.ofDigitChars_cons, Nat.mul_comm 10]
    exact ih _ h

/-! ### Whole numbers -/

/-- The whole numbers that are kept as they are. -/
def IsWhole (n : Int) : Prop := -2 ^ 63 ≤ n ∧ n < 2 ^ 64

/-- A whole number can be printed. -/
lemma int_wellFormed (n : Int) : (Document.int n).WellFormed :=
  ⟨whole_toDigits _, by simp, by simp⟩

/-- A whole number is read back from its digits. -/
theorem ofNumeral?_int {n : Int} (hn : IsWhole n) :
    ofNumeral? ⟨n < 0, Nat.toDigits 10 n.natAbs, none, none⟩ = some (.int n) := by
  obtain ⟨hlow, hhigh⟩ := hn
  have hread : significandOf 0 (Nat.toDigits 10 n.natAbs) = (n.natAbs, []) := by
    have h := significandOf_eq 0 (Nat.toDigits 10 n.natAbs)
    rw [Nat.ofDigitChars_ten_toDigits] at h
    exact h (by omega)
  unfold ofNumeral?
  rw [hread]
  dsimp only
  by_cases hnegative : n < 0
  · have hrange : 0 < n.natAbs ∧ n.natAbs ≤ Nat.pow 2 63 := by
      simp only [Nat.pow_eq]
      omega
    rw [if_neg (by simp [hnegative]), if_pos hrange]
    exact congrArg (fun i => some (Json.int i)) (by omega)
  · rw [if_pos (by simp [hnegative])]
    exact congrArg (fun i => some (Json.int i)) (by omega)

/-- What a number is read as: a whole number of 64 bits, or a double. -/
lemma ofNumeral?_eq_some {n : Numeral} {v : Json} (h : ofNumeral? n = some v) :
    (∃ i, v = .int i ∧ IsWhole i) ∨ ∃ x, v = .float x := by
  have hdigits := significandOf_lt 0 n.whole (by decide)
  unfold ofNumeral? at h
  generalize significandOf 0 n.whole = read at h hdigits
  obtain ⟨digits, dropped⟩ := read
  dsimp only at h hdigits
  have hfloat : ∀ {x : Option Binary64}, x.map Json.float = some v → ∃ x, v = .float x := by
    intro x hx
    obtain ⟨y, -, rfl⟩ := Option.map_eq_some_iff.mp hx
    exact ⟨y, rfl⟩
  split at h
  · split_ifs at h with hsign hrange
    · exact .inl ⟨_, (Option.some.inj h).symm, by omega, by omega⟩
    · rw [Nat.pow_eq] at hrange
      exact .inl ⟨_, (Option.some.inj h).symm, by omega, by omega⟩
    · exact .inr (hfloat h)
  · exact .inr (hfloat h)

/-! ### Doubles -/

/-- A number with a fraction and no exponent is read as a double, whatever the fraction. -/
lemma exists_ofNumeral?_of_fraction {whole places : List Char} (negative : Bool)
    (hwhole : Nat.ofDigitChars 10 whole 0 < 2 ^ 64) :
    ∃ y, ofNumeral? ⟨negative, whole, some places, none⟩ = some (.float y) := by
  let digits := (significandOf (Nat.ofDigitChars 10 whole 0) places).1
  let shift : Int := ([] : List Char).length -
    (places.length - (significandOf (Nat.ofDigitChars 10 whole 0) places).2.length : Nat) +
      ((none : Option Exponent).map Exponent.value).getD 0
  have hdigits : digits < 2 ^ 64 := significandOf_lt _ places hwhole
  have hshift : shift ≤ 0 := by
    simp only [shift, List.length_nil, Option.map_none, Option.getD_none]
    omega
  have hle : (digits * 10 ^ shift : ℚ) ≤ Binary64.safeDecimal := by
    have hpow : (10 : ℚ) ^ shift ≤ 1 := zpow_le_one_of_nonpos₀ (by norm_num) hshift
    calc (digits * 10 ^ shift : ℚ)
        ≤ digits * 1 := by gcongr
      _ = digits := mul_one _
      _ ≤ Binary64.safeDecimal := Nat.cast_le.mpr (hdigits.le.trans Binary64.bits_le_safeDecimal)
  obtain ⟨y, hy⟩ := Binary64.exists_ofDecimal?_of_le negative hdigits hle
  refine ⟨y, ?_⟩
  unfold ofNumeral?
  rw [significandOf_eq _ _ hwhole]
  exact congrArg (Option.map Json.float) hy

/-- A number with an exponent is read as a double, if it has no more than seventeen digits and is no
larger than the largest double. -/
lemma exists_ofNumeral?_of_exponent {whole : List Char} {fraction : Option (List Char)}
    {e : Exponent} (negative : Bool)
    (hdigits : Nat.ofDigitChars 10 (whole ++ fraction.getD []) 0 ≤ 10 ^ 17)
    (hle : (Nat.ofDigitChars 10 (whole ++ fraction.getD []) 0 *
      10 ^ (e.value - (fraction.getD []).length) : ℚ) ≤ 17976931348623157 * 10 ^ (292 : Int)) :
    ∃ y, ofNumeral? ⟨negative, whole, fraction, some e⟩ = some (.float y) := by
  obtain ⟨y, hy⟩ := Binary64.exists_ofDecimal? negative hdigits hle
  rw [Nat.ofDigitChars_append] at hdigits hy
  have hplaces := significandOf_eq _ _ (hdigits.trans_lt (by decide))
  have hwhole := significandOf_eq 0 whole
    ((Decimal.le_ofDigitChars _ _).trans_lt (hdigits.trans_lt (by decide)))
  have hshift : (([] : List Char).length : Int) -
      ((fraction.getD []).length - ([] : List Char).length : Nat) +
        ((some e).map Exponent.value).getD 0 = e.value - (fraction.getD []).length := by
    simp only [List.length_nil, Option.map_some, Option.getD_some]
    omega
  refine ⟨y, ?_⟩
  unfold ofNumeral?
  rw [hwhole]
  cases fraction <;> dsimp only <;> rw [hplaces, hshift]
  all_goals exact congrArg (Option.map Json.float) hy

/-- The value of a whole exponent. -/
lemma value_exponent (n : Int) :
    Exponent.value ⟨some (decide (n < 0)), Nat.toDigits 10 n.natAbs⟩ = n := by
  have hfold : (Nat.toDigits 10 n.natAbs).foldl (fun acc c => acc * 10 + digitValue c) 0 =
      n.natAbs := by
    refine Eq.trans ?_ Nat.ofDigitChars_ten_toDigits
    simp only [Nat.ofDigitChars, digitValue, Nat.mul_comm]
  unfold Exponent.value
  dsimp only
  rw [hfold]
  split
  next h =>
    have hnegative : n < 0 := by simpa using h
    omega
  next h =>
    have hpositive : ¬n < 0 := by simpa using h
    omega

/-- The digits of a positive number without the zeros at its end. -/
lemma trimmed_spec {n : Nat} (hn : 0 < n) :
    ∃ trimmed zeros, ((Nat.toDigits 10 n).reverse.dropWhile (· == '0')).reverse = trimmed ∧
      Nat.toDigits 10 n = trimmed ++ List.replicate zeros '0' ∧ IsDigits trimmed ∧
        trimmed.head? ≠ some '0' := by
  let trimmed := (Nat.toDigits 10 n).rdropWhile (· == '0')
  let zeros := (Nat.toDigits 10 n).rtakeWhile (· == '0')
  have hzeros : zeros = List.replicate zeros.length '0' :=
    List.eq_replicate_of_mem fun c hc => by simpa using List.mem_rtakeWhile_imp hc
  have happend : Nat.toDigits 10 n = trimmed ++ List.replicate zeros.length '0' := by
    rw [← hzeros]
    exact List.rdropWhile_append_rtakeWhile.symm
  have hhead := head?_toDigits_ne_zero hn
  have hne : trimmed ≠ [] := by
    intro hnil
    have hnonempty : Nat.toDigits 10 n ≠ [] := Nat.toDigits_ne_nil
    rw [happend, hnil, List.nil_append] at hhead hnonempty
    rw [List.head?_replicate, if_neg (by simpa using hnonempty)] at hhead
    exact hhead rfl
  refine ⟨trimmed, zeros.length, rfl, happend, ⟨hne, fun c hc => ?_⟩, ?_⟩
  · exact (isDigits_toDigits n).2 c (happend ▸ List.mem_append_left _ hc)
  · rwa [happend, List.head?_append_of_ne_nil _ hne] at hhead

/-- A number of some digits is below the power of ten with as many zeros. -/
lemma ofDigitChars_lt {cs : List Char} (hcs : ∀ c ∈ cs, c.isDigit = true) :
    Nat.ofDigitChars 10 cs 0 < 10 ^ cs.length := by
  induction cs with
  | nil => simp
  | cons c rest ih =>
    have hdigit : c.toNat - '0'.toNat ≤ 9 := by
      have hc := hcs c List.mem_cons_self
      simp only [Char.isDigit, Bool.and_eq_true, decide_eq_true_eq] at hc
      have hhigh : c.toNat ≤ '9'.toNat := hc.2
      have hnine : '9'.toNat = 57 := rfl
      have hzero : '0'.toNat = 48 := rfl
      omega
    have hrest := ih fun c hc => hcs c (List.mem_cons_of_mem _ hc)
    rw [Nat.ofDigitChars_cons, Nat.ofDigitChars_eq_ofDigitChars_zero, Nat.mul_zero, Nat.zero_add,
      List.length_cons, pow_succ]
    have := Nat.mul_le_mul_left (10 ^ rest.length) hdigit
    omega

/-- Digits and more digits are digits. -/
lemma IsDigits.append {ds es : List Char} (hds : IsDigits ds) (hes : ∀ c ∈ es, c.isDigit = true) :
    IsDigits (ds ++ es) :=
  ⟨List.append_ne_nil_of_left_ne_nil hds.1 es, fun c hc =>
    (List.mem_append.mp hc).elim (hds.2 c) (hes c)⟩

/-- Zeros are digits. -/
lemma isDigit_of_mem_replicate {n : Nat} {c : Char} (hc : c ∈ List.replicate n '0') :
    c.isDigit = true := by
  rw [List.eq_of_mem_replicate hc]
  rfl

/-- How a double is written is a number, which is read as a double. -/
structure ReadAsDouble (n : Numeral) : Prop where
  wellFormed : n.WellFormed
  read : ∃ y, ofNumeral? n = some (.float y)

section Formats

variable {trimmed : List Char} (negative : Bool)

/-- Digits with an exponent. -/
lemma readAsDouble_exponent {lead : Int} (htrimmed : IsDigits trimmed)
    (hhead : trimmed.head? ≠ some '0') (hdigits : Nat.ofDigitChars 10 trimmed 0 ≤ 10 ^ 17)
    (hle : (Nat.ofDigitChars 10 trimmed 0 * 10 ^ (lead - (trimmed.length - 1 : Nat)) : ℚ) ≤
      17976931348623157 * 10 ^ (292 : Int)) :
    ReadAsDouble ⟨negative, trimmed.take 1,
      if 1 < trimmed.length then some (trimmed.drop 1) else none,
      some ⟨some (lead < 0), Nat.toDigits 10 lead.natAbs⟩⟩ := by
  obtain ⟨c, rest, rfl⟩ := List.exists_cons_of_ne_nil htrimmed.1
  have hplaces : (if 1 < (c :: rest).length then some ((c :: rest).drop 1) else none).getD [] =
      rest := by
    cases rest <;> simp
  have hwhole :
      [c] ++ (if 1 < (c :: rest).length then some ((c :: rest).drop 1) else none).getD [] =
        c :: rest := by
    rw [hplaces, List.singleton_append]
  refine ⟨⟨.inr ⟨⟨by simp, fun d hd => ?_⟩, hhead⟩, fun ds hds => ?_, fun e he => ?_⟩, ?_⟩
  · exact htrimmed.2 d (List.mem_of_mem_take hd)
  · dsimp only at hds
    split at hds
    next hlong =>
      obtain rfl := Option.some.inj hds
      exact ⟨List.ne_nil_of_length_pos (by simpa using hlong),
        fun d hd => htrimmed.2 d (List.mem_of_mem_drop hd)⟩
    next => simp at hds
  · obtain rfl := Option.some.inj he
    exact isDigits_toDigits _
  · refine exists_ofNumeral?_of_exponent negative ?_ ?_
    · rwa [List.take_succ_cons, List.take_zero, hwhole]
    · rw [List.take_succ_cons, List.take_zero, hwhole, value_exponent, hplaces]
      exact hle

/-- Digits with a point between or behind them. -/
lemma readAsDouble_whole {width : Nat} (hwidth : 0 < width) (hshort : width ≤ 16)
    (htrimmed : IsDigits trimmed) (hhead : trimmed.head? ≠ some '0') {padded : List Char}
    (hpadded : padded = trimmed ++ List.replicate (width - trimmed.length) '0') :
    ReadAsDouble ⟨negative, padded.take width,
      some (if (padded.drop width).isEmpty then ['0'] else padded.drop width), none⟩ := by
  have hdigits : IsDigits padded :=
    hpadded ▸ htrimmed.append fun c hc => isDigit_of_mem_replicate hc
  have hfirst : padded.head? ≠ some '0' := by
    rwa [hpadded, List.head?_append_of_ne_nil _ htrimmed.1]
  have hwhole : ∀ c ∈ padded.take width, c.isDigit = true := fun c hc =>
    hdigits.2 c (List.mem_of_mem_take hc)
  refine ⟨⟨.inr ⟨⟨?_, hwhole⟩, ?_⟩, fun ds hds => ?_, by simp⟩, ?_⟩
  · simpa [hwidth.ne'] using hdigits.1
  · rwa [List.head?_take, if_neg hwidth.ne']
  · obtain rfl := Option.some.inj hds
    split
    next => exact ⟨by simp, by simp⟩
    next hne => exact ⟨by simpa using hne, fun c hc => hdigits.2 c (List.mem_of_mem_drop hc)⟩
  · refine exists_ofNumeral?_of_fraction negative ((ofDigitChars_lt hwhole).trans_le ?_)
    have hlength : (padded.take width).length ≤ 16 := (List.length_take_le _ _).trans hshort
    exact (Nat.pow_le_pow_right (by decide) hlength).trans (by decide)

/-- Digits behind the point. -/
lemma readAsDouble_fraction (htrimmed : IsDigits trimmed) (zeros : Nat) :
    ReadAsDouble ⟨negative, ['0'], some (List.replicate zeros '0' ++ trimmed), none⟩ := by
  refine ⟨⟨.inl rfl, fun ds hds => ?_, by simp⟩,
    exists_ofNumeral?_of_fraction negative (by decide)⟩
  obtain rfl := Option.some.inj hds
  refine ⟨List.append_ne_nil_of_right_ne_nil _ htrimmed.1, fun c hc => ?_⟩
  exact (List.mem_append.mp hc).elim isDigit_of_mem_replicate (htrimmed.2 c)

end Formats

/-- How a double is written is read as a double. -/
theorem readAsDouble_floatNumeral (x : Binary64) : ReadAsDouble (floatNumeral x) := by
  unfold floatNumeral
  split
  next => exact ⟨⟨.inl rfl, by simp [IsDigits], by simp⟩,
    exists_ofNumeral?_of_fraction _ (by decide)⟩
  next hrank =>
    obtain ⟨hpos, hdigits, hle⟩ := Binary64.shortest_spec (Nat.pos_of_ne_zero hrank)
    obtain ⟨trimmed, zeros, htrim, happend, htrimmed, hhead⟩ := trimmed_spec hpos
    have hvalue : x.shortest.digits = Nat.ofDigitChars 10 trimmed 0 * 10 ^ zeros := by
      rw [← Nat.ofDigitChars_ten_toDigits (n := x.shortest.digits), happend,
        Nat.ofDigitChars_append, Nat.ofDigitChars_replicate_zero, Nat.mul_comm]
    have hlength : (Nat.toDigits 10 x.shortest.digits).length = trimmed.length + zeros := by
      rw [happend, List.length_append, List.length_replicate]
    have hnonempty : 0 < trimmed.length := List.length_pos_iff.mpr htrimmed.1
    dsimp only
    rw [htrim]
    generalize hlead :
      ((Nat.toDigits 10 x.shortest.digits).length : Int) + x.shortest.exponent - 1 = lead
    by_cases hscale : lead < -5 ∨ 16 ≤ lead
    · rw [if_pos hscale]
      refine readAsDouble_exponent _ htrimmed hhead ?_ ?_
      · refine le_trans ?_ hdigits
        rw [hvalue]
        exact Nat.le_mul_of_pos_right _ (Nat.pow_pos (by decide))
      · refine le_trans (le_of_eq ?_) hle
        rw [hvalue, Nat.cast_mul, Nat.cast_pow, Nat.cast_ofNat, mul_assoc, ← zpow_natCast,
          ← zpow_add₀ (by norm_num)]
        congr 2
        omega
    rw [if_neg hscale]
    by_cases hwhole : 0 ≤ lead
    · rw [if_pos hwhole]
      exact readAsDouble_whole _ (Nat.succ_pos _) (by omega) htrimmed hhead rfl
    · rw [if_neg hwhole]
      exact readAsDouble_fraction _ htrimmed _

end Colloquy.Json
