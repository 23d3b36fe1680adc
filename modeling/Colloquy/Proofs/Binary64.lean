import Mathlib.Algebra.Order.Field.Power
import Mathlib.Data.Nat.Log
import Mathlib.Data.Rat.Cast.Order
import Mathlib.Tactic.FieldSimp
import Mathlib.Tactic.Linarith
import Mathlib.Tactic.NormNum
import Mathlib.Tactic.Positivity
import Mathlib.Tactic.Ring
import Colloquy.Binary64

/-!
# How far rounding goes

The double that `nearest?` gives lies within half a step of the quotient (`value_of_nearest?`), and
there is one as long as the quotient lies below the middle between the largest double and the next
power of two (`exists_nearest?`). So a decimal is read as a double although its digits, its power of
ten and their product are rounded one after another, if it does not come too close to that middle
(`exists_ofDecimal?`).
-/

namespace Colloquy.Binary64

variable {num den : Nat} {negative : Bool} {x y : Binary64}

/-- The magnitude of a double. -/
def value (x : Binary64) : ℚ := x.significand * 2 ^ x.exponent

/-- The middle between the largest double and the next power of two. -/
def limit : ℚ := (2 ^ 54 - 1) * 2 ^ (970 : Int)

/-! ### Quotients -/

/-- Scaling a quotient by a power of two keeps its denominator positive. -/
lemma unscale_pos (hden : 0 < den) (e : Int) : 0 < (unscale num den e).2 := by
  unfold unscale
  split
  · exact Nat.mul_pos hden (Nat.pow_pos (by decide))
  · exact hden

/-- Scaling a quotient divides it by the power of two. -/
lemma unscale_div (num den : Nat) (e : Int) :
    ((unscale num den e).1 : ℚ) / (unscale num den e).2 = num / den / 2 ^ e := by
  unfold unscale
  split
  next he =>
    lift e to Nat using he
    simp only [Int.toNat_natCast, Nat.pow_eq, Nat.cast_mul, Nat.cast_pow, Nat.cast_ofNat,
      zpow_natCast, div_div]
  next he =>
    obtain ⟨k, rfl⟩ : ∃ k : Nat, e = -(k : Int) := ⟨(-e).toNat, by omega⟩
    simp only [neg_neg, Int.toNat_natCast, Nat.pow_eq, Nat.cast_mul, Nat.cast_pow, Nat.cast_ofNat,
      zpow_neg, zpow_natCast, div_inv_eq_mul]
    ring

/-- A quotient lies within a factor of two of the quotient of the leading bits. -/
lemma log2_bracket (hnum : 0 < num) (hden : 0 < den) :
    (2 ^ ((num.log2 : Int) - den.log2 - 1) : ℚ) ≤ num / den ∧
      (num / den : ℚ) < 2 ^ ((num.log2 : Int) - den.log2 + 1) := by
  have hnum₁ : (2 : ℚ) ^ num.log2 ≤ num := mod_cast Nat.log2_self_le hnum.ne'
  have hnum₂ : (num : ℚ) < 2 ^ (num.log2 + 1) := mod_cast Nat.lt_log2_self
  have hden₁ : (2 : ℚ) ^ den.log2 ≤ den := mod_cast Nat.log2_self_le hden.ne'
  have hden₂ : (den : ℚ) < 2 ^ (den.log2 + 1) := mod_cast Nat.lt_log2_self
  have hlow : (2 ^ ((num.log2 : Int) - den.log2 - 1) : ℚ) = 2 ^ num.log2 / 2 ^ (den.log2 + 1) := by
    rw [show (num.log2 : Int) - den.log2 - 1 = num.log2 - ((den.log2 + 1 : Nat) : Int) by
      push_cast; ring, zpow_sub₀ two_ne_zero, zpow_natCast, zpow_natCast]
  have hhigh : (2 ^ ((num.log2 : Int) - den.log2 + 1) : ℚ) = 2 ^ (num.log2 + 1) / 2 ^ den.log2 := by
    rw [show (num.log2 : Int) - den.log2 + 1 = ((num.log2 + 1 : Nat) : Int) - den.log2 by
      push_cast; ring, zpow_sub₀ two_ne_zero, zpow_natCast, zpow_natCast]
  have hpos : (0 : ℚ) < den := mod_cast hden
  rw [hlow, hhigh]
  constructor
  · gcongr
  · gcongr

/-- With its exponent a quotient has a significand below 2^53, and one from 2^52 on unless the
exponent is the least one. -/
lemma fittingExponent_spec (hnum : 0 < num) (hden : 0 < den) :
    (num / den : ℚ) < 2 ^ 53 * 2 ^ fittingExponent num den ∧ -1074 ≤ fittingExponent num den ∧
      (fittingExponent num den = -1074 ∨
        (2 ^ 52 * 2 ^ fittingExponent num den : ℚ) ≤ num / den) := by
  obtain ⟨hlow, hhigh⟩ := log2_bracket hnum hden
  let guess : Int := (num.log2 : Int) - den.log2 - 53
  let e : Int := if Nat.pow 2 53 * (unscale num den guess).2 ≤ (unscale num den guess).1
    then guess + 1 else guess
  have he : fittingExponent num den = max (-1074) e := rfl
  -- before the least exponent is taken into account, the significand has 53 bits
  have hfits : (2 ^ 52 * 2 ^ e : ℚ) ≤ num / den ∧ (num / den : ℚ) < 2 ^ 53 * 2 ^ e := by
    have hpos : (0 : ℚ) < (unscale num den guess).2 := mod_cast unscale_pos hden guess
    have hpow : (0 : ℚ) < 2 ^ guess := by positivity
    have hcond : Nat.pow 2 53 * (unscale num den guess).2 ≤ (unscale num den guess).1 ↔
        (2 ^ 53 * 2 ^ guess : ℚ) ≤ num / den := by
      rw [← le_div_iff₀ hpow, ← unscale_div, le_div_iff₀ hpos]
      exact_mod_cast Iff.rfl
    by_cases hlarge : Nat.pow 2 53 * (unscale num den guess).2 ≤ (unscale num den guess).1
    · have he : e = guess + 1 := if_pos hlarge
      rw [he, zpow_add_one₀ two_ne_zero]
      constructor
      · linarith [hcond.mp hlarge]
      · rw [show (num.log2 : Int) - den.log2 + 1 = guess + 54 by omega,
          zpow_add₀ two_ne_zero] at hhigh
        norm_num at hhigh ⊢
        linarith
    · have he : e = guess := if_neg hlarge
      rw [he]
      constructor
      · rw [show (num.log2 : Int) - den.log2 - 1 = guess + 52 by omega,
          zpow_add₀ two_ne_zero] at hlow
        norm_num at hlow ⊢
        linarith
      · exact lt_of_not_ge fun h => hlarge (hcond.mpr h)
  rw [he]
  rcases le_total e (-1074) with hleast | hgreater
  · rw [max_eq_left hleast]
    refine ⟨hfits.2.trans_le ?_, le_rfl, .inl rfl⟩
    gcongr
    norm_num
  · rw [max_eq_right hgreater]
    exact ⟨hfits.2, hgreater, .inr hfits.1⟩

/-- A quotient is rounded by at most one half. -/
lemma roundedQuotient_spec (num : Nat) (hden : 0 < den) :
    |(roundedQuotient num den : ℚ) - num / den| ≤ 1 / 2 := by
  have hdiv : den * (num / den) + num % den = num := Nat.div_add_mod num den
  have hmod : num % den < den := Nat.mod_lt _ hden
  have hbounds : 2 * (den * roundedQuotient num den) ≤ 2 * num + den ∧
      2 * num ≤ 2 * (den * roundedQuotient num den) + den := by
    have hsucc : den * (num / den + 1) = den * (num / den) + den := Nat.mul_add_one ..
    unfold roundedQuotient
    dsimp only
    split_ifs <;> constructor <;> omega
  have hpos : (0 : ℚ) < den := mod_cast hden
  have h₁ : (2 * (den * roundedQuotient num den) : ℚ) ≤ 2 * num + den := mod_cast hbounds.1
  have h₂ : (2 * num : ℚ) ≤ 2 * (den * roundedQuotient num den) + den := mod_cast hbounds.2
  rw [abs_le]
  constructor
  · rw [neg_le_sub_iff_le_add, div_le_iff₀ hpos]
    linarith
  · rw [sub_le_iff_le_add, ← sub_le_iff_le_add', le_div_iff₀ hpos]
    linarith

/-! ### Rounding -/

/-- The magnitude that stands at a place is a whole number of steps, the steps being those of the
exponent that the place was made with. -/
lemma value_of_rank {k m : Nat} (hrank : x.rank = k * 2 ^ 52 + m) (hm : m ≤ 2 ^ 53)
    (hk : k = 0 ∨ 2 ^ 52 ≤ m) : x.value = m * 2 ^ ((k : Int) - 1074) := by
  unfold value significand exponent
  simp only [Nat.pow_eq]
  rcases Nat.lt_or_ge m (2 ^ 52) with hsmall | hlarge
  · obtain rfl : k = 0 := by omega
    have hdiv : x.rank / 2 ^ 52 = 0 := by omega
    rw [if_pos hdiv, if_pos hdiv, show x.rank = m by omega]
    norm_num
  rcases Nat.lt_or_ge m (2 ^ 53) with hnormal | hcarry
  · have hdiv : x.rank / 2 ^ 52 = k + 1 := by omega
    have hmod : 2 ^ 52 + x.rank % 2 ^ 52 = m := by omega
    rw [hdiv, hmod, if_neg (Nat.succ_ne_zero k), if_neg (Nat.succ_ne_zero k),
      show ((k + 1 : Nat) : Int) - 1075 = k - 1074 by omega]
  · obtain rfl : m = 2 ^ 53 := by omega
    have hdiv : x.rank / 2 ^ 52 = k + 1 + 1 := by omega
    have hmod : 2 ^ 52 + x.rank % 2 ^ 52 = 2 ^ 52 := by omega
    rw [hdiv, hmod, if_neg (Nat.succ_ne_zero _), if_neg (Nat.succ_ne_zero _),
      show ((k + 1 + 1 : Nat) : Int) - 1075 = k - 1074 + 1 by omega, zpow_add_one₀ two_ne_zero]
    push_cast
    ring

/-- The number of steps that a quotient is rounded to. -/
lemma steps_spec (hnum : 0 < num) (hden : 0 < den) {m : Nat}
    (hm : m = roundedQuotient (unscale num den (fittingExponent num den)).1
      (unscale num den (fittingExponent num den)).2) :
    m ≤ 2 ^ 53 ∧ (fittingExponent num den = -1074 ∨ 2 ^ 52 ≤ m) ∧
      |m * 2 ^ fittingExponent num den - (num / den : ℚ)| ≤ 2 ^ fittingExponent num den / 2 := by
  obtain ⟨hhigh, -, hlow⟩ := fittingExponent_spec hnum hden
  generalize fittingExponent num den = e at *
  have hpow : (0 : ℚ) < 2 ^ e := by positivity
  have hround : |(m : ℚ) - num / den / 2 ^ e| ≤ 1 / 2 := by
    rw [← unscale_div, hm]
    exact roundedQuotient_spec _ (unscale_pos hden e)
  obtain ⟨hround₁, hround₂⟩ := abs_le.mp hround
  have hhigh : (num / den / 2 ^ e : ℚ) < 2 ^ 53 := (div_lt_iff₀ hpow).mpr hhigh
  refine ⟨?_, hlow.imp_right fun hlow => ?_, ?_⟩
  · have h : (m : ℚ) < 2 ^ 53 + 1 := by linarith
    exact Nat.lt_succ_iff.mp (mod_cast h)
  · have hlow : (2 ^ 52 : ℚ) ≤ num / den / 2 ^ e := (le_div_iff₀ hpow).mpr hlow
    have h : (2 ^ 52 : ℚ) < m + 1 := by linarith
    exact Nat.lt_succ_iff.mp (mod_cast h)
  · have hscale : (m * 2 ^ e - num / den : ℚ) = (m - num / den / 2 ^ e) * 2 ^ e := by
      field_simp
    rw [hscale, abs_mul, abs_of_pos hpow]
    calc |(m : ℚ) - num / den / 2 ^ e| * 2 ^ e
        ≤ 1 / 2 * 2 ^ e := by gcongr
      _ = 2 ^ e / 2 := by ring

/-- A quotient is rounded by at most half a step. -/
lemma value_of_nearest? (hnum : 0 < num) (hden : 0 < den)
    (h : nearest? negative num den = some x) :
    |x.value - num / den| ≤ 2 ^ fittingExponent num den / 2 := by
  obtain ⟨hm, hk, hround⟩ := steps_spec hnum hden rfl
  obtain ⟨-, hleast, -⟩ := fittingExponent_spec hnum hden
  unfold nearest? at h
  rw [if_neg hnum.ne'] at h
  dsimp only at h
  split at h
  · obtain rfl := Option.some.inj h
    rwa [value_of_rank rfl hm (hk.imp_left fun he => by rw [he]; rfl),
      show (((fittingExponent num den + 1074).toNat : Nat) : Int) - 1074 =
        fittingExponent num den by omega]
  · simp at h

/-- A quotient from one on is rounded by at most one part in 2^53. -/
lemma value_of_nearest?_of_one_le (hnum : 0 < num) (hden : 0 < den) (hone : (1 : ℚ) ≤ num / den)
    (h : nearest? negative num den = some x) :
    |x.value - num / den| ≤ num / den / 2 ^ 53 := by
  refine (value_of_nearest? hnum hden h).trans ?_
  obtain ⟨-, -, hleast | hlow⟩ := fittingExponent_spec hnum hden
  · rw [hleast]
    calc (2 ^ (-1074 : Int) / 2 : ℚ)
        ≤ 2 ^ (-52 : Int) / 2 := by gcongr <;> norm_num
      _ = 1 / 2 ^ 53 := by norm_num
      _ ≤ num / den / 2 ^ 53 := by gcongr
  · calc (2 ^ fittingExponent num den / 2 : ℚ)
        = 2 ^ 52 * 2 ^ fittingExponent num den / 2 ^ 53 := by ring
      _ ≤ num / den / 2 ^ 53 := by gcongr

/-- A quotient below the limit is rounded to a double. -/
theorem exists_nearest? (hden : 0 < den) (h : (num / den : ℚ) < limit) :
    ∃ x, nearest? negative num den = some x := by
  rcases Nat.eq_zero_or_pos num with rfl | hnum
  · exact ⟨_, rfl⟩
  obtain ⟨hm, -, hround⟩ := steps_spec hnum hden rfl
  obtain ⟨-, hleast, hlow⟩ := fittingExponent_spec hnum hden
  unfold nearest?
  rw [if_neg hnum.ne']
  dsimp only
  generalize fittingExponent num den = e at *
  generalize roundedQuotient (unscale num den e).1 (unscale num den e).2 = m at *
  have hlimit : limit < 2 ^ 52 * 2 ^ (972 : Int) := by
    have hpow : (0 : ℚ) < 2 ^ (970 : Int) := by positivity
    rw [limit, show (972 : Int) = 970 + 2 by rfl, zpow_add₀ two_ne_zero]
    generalize (2 : ℚ) ^ (970 : Int) = u at hpow
    linarith
  have hsmall : e ≤ 971 := by
    by_contra hlarge
    have hlow := hlow.resolve_left (by omega)
    have hmono : (2 ^ 52 * 2 ^ (972 : Int) : ℚ) ≤ 2 ^ 52 * 2 ^ e := by
      gcongr
      · norm_num
      · omega
    linarith
  rcases lt_or_eq_of_le hsmall with hsmaller | rfl
  · rw [dif_pos (by simp only [Nat.pow_eq]; omega)]
    exact ⟨_, rfl⟩
  · have hm : m < 2 ^ 53 := by
      by_contra hlarge
      obtain rfl : m = 2 ^ 53 := by omega
      have hround := (abs_le.mp hround).2
      rw [show (971 : Int) = 970 + 1 by rfl, zpow_add₀ two_ne_zero] at hround
      rw [limit] at h
      generalize (2 : ℚ) ^ (970 : Int) = u at h hround
      push_cast at hround
      linarith
    rw [dif_pos (by simp only [Nat.pow_eq]; omega)]
    exact ⟨_, rfl⟩

/-! ### Products and quotients -/

/-- A significand has 53 bits. -/
lemma significand_lt (x : Binary64) : x.significand < 2 ^ 53 := by
  unfold significand
  simp only [Nat.pow_eq]
  split <;> omega

/-- The bounds of the exponent of a finite double. -/
lemma exponent_le (x : Binary64) : -1074 ≤ x.exponent ∧ x.exponent ≤ 971 := by
  have := x.finite
  unfold exponent
  simp only [Nat.pow_eq]
  split <;> omega

/-- A magnitude is not negative. -/
lemma value_nonneg (x : Binary64) : 0 ≤ x.value := by
  unfold value
  positivity

/-- A finite double is below the middle between the largest double and the next power of two. -/
lemma value_lt_limit (x : Binary64) : x.value < limit := by
  have hpow : (0 : ℚ) < 2 ^ (970 : Int) := by positivity
  have hsignificand : (x.significand : ℚ) ≤ 2 ^ 53 - 1 := by
    rw [le_sub_iff_add_le]
    exact_mod_cast x.significand_lt
  calc x.value
      ≤ (2 ^ 53 - 1) * 2 ^ (971 : Int) := by
        have hscale : (2 : ℚ) ^ x.exponent ≤ 2 ^ (971 : Int) :=
          zpow_le_zpow_right₀ one_le_two x.exponent_le.2
        exact mul_le_mul hsignificand hscale (by positivity) (by norm_num)
    _ < limit := by
        rw [limit, show (971 : Int) = 970 + 1 by rfl, zpow_add_one₀ two_ne_zero]
        generalize (2 : ℚ) ^ (970 : Int) = u at hpow ⊢
        linarith

/-- A double is the quotient of two numbers, of which the second is positive. -/
lemma ratio_spec (x : Binary64) : 0 < x.ratio.2 ∧ (x.ratio.1 / x.ratio.2 : ℚ) = x.value := by
  unfold ratio value
  split
  next he =>
    obtain ⟨k, hk⟩ := Int.eq_ofNat_of_zero_le he
    rw [hk]
    simp
  next he =>
    obtain ⟨k, hk⟩ : ∃ k : Nat, x.exponent = -(k : Int) := ⟨(-x.exponent).toNat, by omega⟩
    rw [hk]
    simp [div_eq_mul_inv]

/-- A product below the limit is rounded to a double. -/
lemma exists_mul? (h : x.value * y.value < limit) : ∃ z, x.mul? y = some z := by
  obtain ⟨hx, hxvalue⟩ := x.ratio_spec
  obtain ⟨hy, hyvalue⟩ := y.ratio_spec
  change ∃ z, nearest? x.negative (x.ratio.1 * y.ratio.1) (x.ratio.2 * y.ratio.2) = some z
  refine exists_nearest? (Nat.mul_pos hx hy) ?_
  rw [← hxvalue, ← hyvalue, div_mul_div_comm] at h
  exact_mod_cast h

/-- A quotient by a double from one on is rounded to a double. -/
lemma exists_div? (x : Binary64) (h : 1 ≤ y.value) : ∃ z, x.div? y = some z := by
  obtain ⟨hx, hxvalue⟩ := x.ratio_spec
  obtain ⟨hy, hyvalue⟩ := y.ratio_spec
  have hnum : 0 < y.ratio.1 := by
    by_contra hzero
    rw [← hyvalue, show y.ratio.1 = 0 by omega] at h
    norm_num at h
  change ∃ z, nearest? x.negative (x.ratio.1 * y.ratio.2) (x.ratio.2 * y.ratio.1) = some z
  refine exists_nearest? (Nat.mul_pos hx hnum) ?_
  have hquotient : ((x.ratio.1 * y.ratio.2 : Nat) / (x.ratio.2 * y.ratio.1 : Nat) : ℚ) =
      x.value / y.value := by
    rw [← hxvalue, ← hyvalue, div_div_div_eq]
    push_cast
    rfl
  rw [hquotient]
  exact (div_le_self x.value_nonneg h).trans_lt x.value_lt_limit

/-! ### Decimals -/

/-- The limit of doubles is a whole number. -/
lemma limit_eq : limit = ((2 ^ 54 - 1) * 2 ^ 970 : Nat) := by
  have hpow : (2 : ℚ) ^ (970 : Int) = (2 ^ 970 : Nat) := by
    rw [Nat.cast_pow]
    exact zpow_natCast _ 970
  have hodd : (2 ^ 54 - 1 : ℚ) = (2 ^ 54 - 1 : Nat) := by norm_num
  rw [limit, hpow, hodd, ← Nat.cast_mul]

/-- A quotient is below the limit if its numerator is below as many of its denominator. -/
lemma div_lt_limit (hden : 0 < den) (h : num < (2 ^ 54 - 1) * 2 ^ 970 * den) :
    (num / den : ℚ) < limit := by
  have hpos : (0 : ℚ) < den := mod_cast hden
  rw [limit_eq, div_lt_iff₀ hpos, ← Nat.cast_mul]
  exact Nat.cast_lt.mpr h

/-- A bound for decimals that are read as doubles although three roundings follow one another. -/
def safeDecimal : Nat := 17976931348623153 * 10 ^ 292

/-- The bound for decimals as a product of digits and a power of ten. -/
lemma safeDecimal_eq : (safeDecimal : ℚ) = 17976931348623153 * 10 ^ (292 : Int) := by
  rw [safeDecimal, Nat.cast_mul, Nat.cast_pow]
  rfl

/-- The bound for decimals is below the limit of doubles even if it grows by two roundings. -/
lemma safeDecimal_mul_lt_limit : (safeDecimal * ((2 ^ 53 + 1) ^ 2 / 2 ^ 106) : ℚ) < limit := by
  have h : ((safeDecimal * (2 ^ 53 + 1) ^ 2 : Nat) / (2 ^ 106 : Nat) : ℚ) < limit :=
    div_lt_limit (by decide) (by decide +kernel)
  rw [← mul_div_assoc]
  exact_mod_cast h

/-- The bound for decimals is below the limit of doubles. -/
lemma safeDecimal_lt_limit : (safeDecimal : ℚ) < limit := by
  refine lt_of_le_of_lt (le_mul_of_one_le_right (Nat.cast_nonneg _) ?_) safeDecimal_mul_lt_limit
  norm_num

/-- Powers of ten up to 308 are within the bound for decimals. -/
lemma pow_le_safeDecimal {k : Nat} (hk : k ≤ 308) : 10 ^ k ≤ safeDecimal :=
  calc 10 ^ k
      ≤ 10 ^ (16 + 292) := pow_le_pow_right₀ (by decide) hk
    _ = 10 ^ 16 * 10 ^ 292 := pow_add _ _ _
    _ ≤ 17976931348623153 * 10 ^ 292 := Nat.mul_le_mul_right _ (by decide)
    _ = safeDecimal := rfl

/-- A decimal within the bound has no more than 308 places after its digits. -/
lemma le_of_mul_pow_le_safeDecimal {digits k : Nat} (hpos : 0 < digits)
    (h : digits * 10 ^ k ≤ safeDecimal) : k ≤ 308 := by
  by_contra hlarge
  refine absurd h (not_le_of_gt ?_)
  calc safeDecimal
      < 10 ^ 17 * 10 ^ 292 := Nat.mul_lt_mul_of_pos_right (by decide) (by positivity)
    _ = 10 ^ (17 + 292) := (pow_add _ _ _).symm
    _ ≤ 10 ^ k := pow_le_pow_right₀ (by decide) (by omega)
    _ ≤ digits * 10 ^ k := Nat.le_mul_of_pos_left _ hpos

/-- What fits 64 bits is within the bound for decimals. -/
lemma bits_le_safeDecimal : 2 ^ 64 ≤ safeDecimal :=
  (by decide : 2 ^ 64 ≤ 10 ^ 20).trans (pow_le_safeDecimal (by decide))

/-- The powers of ten that decimals are scaled by are doubles. -/
lemma tenTo?_spec {k : Nat} (hk : k ≤ 308) :
    ∃ y, tenTo? k = some y ∧ |y.value - 10 ^ k| ≤ 10 ^ k / 2 ^ 53 := by
  have hone : (1 : ℚ) ≤ 10 ^ k := one_le_pow₀ (by norm_num)
  have hlimit : ((Nat.pow 10 k : Nat) / (1 : Nat) : ℚ) < limit := by
    rw [Nat.cast_one, div_one]
    exact safeDecimal_lt_limit.trans_le' (mod_cast pow_le_safeDecimal hk)
  obtain ⟨y, hy⟩ := exists_nearest? Nat.one_pos hlimit
  refine ⟨y, hy, ?_⟩
  have hvalue := value_of_nearest?_of_one_le (Nat.pow_pos (by decide)) Nat.one_pos
    (by simpa using hone) hy
  simpa using hvalue

/-- A power of ten that a decimal is scaled by is a double of at least one. -/
lemma exists_tenTo?_succ {k : Nat} (hk : k + 1 ≤ 308) :
    ∃ y, tenTo? (k + 1) = some y ∧ 1 ≤ y.value := by
  obtain ⟨y, hy, hround⟩ := tenTo?_spec hk
  have hten : (10 : ℚ) ≤ 10 ^ (k + 1) := le_self_pow₀ (by norm_num) (Nat.succ_ne_zero k)
  have := (abs_le.mp hround).1
  exact ⟨y, hy, by linarith⟩

/-- The digits of a decimal, rounded. -/
lemma exists_nearest?_digits {digits : Nat} (negative : Bool) (hdigits : digits < 2 ^ 64) :
    ∃ x, nearest? negative digits 1 = some x ∧
      (0 < digits → x.value ≤ digits * ((2 ^ 53 + 1) / 2 ^ 53)) := by
  have hsmall : (digits / (1 : Nat) : ℚ) < limit := by
    rw [Nat.cast_one, div_one]
    exact safeDecimal_lt_limit.trans_le' (mod_cast hdigits.le.trans bits_le_safeDecimal)
  obtain ⟨x, hx⟩ : ∃ x, nearest? negative digits 1 = some x := exists_nearest? Nat.one_pos hsmall
  refine ⟨x, hx, fun hpos => ?_⟩
  have hone : (1 : ℚ) ≤ digits := mod_cast hpos
  have hround := value_of_nearest?_of_one_le hpos Nat.one_pos (by simpa using hone) hx
  rw [Nat.cast_one, div_one] at hround
  have := (abs_le.mp hround).2
  linarith

/-- A decimal that is not too large is read as a double. -/
lemma exists_ofDecimal?_of_le {digits : Nat} {exponent : Int} (negative : Bool)
    (hdigits : digits < 2 ^ 64) (h : (digits * 10 ^ exponent : ℚ) ≤ safeDecimal) :
    ∃ x, ofDecimal? negative digits exponent = some x := by
  obtain ⟨x, hx, hxle⟩ := exists_nearest?_digits negative hdigits
  unfold ofDecimal?
  simp only [hx, Option.bind_eq_bind, Option.bind_some]
  rcases Nat.eq_zero_or_pos digits with hzero | hpos
  · exact ⟨x, if_pos hzero⟩
  rw [if_neg hpos.ne']
  split
  next hexponent =>
    obtain ⟨k, rfl⟩ := Int.eq_ofNat_of_zero_le hexponent
    rw [zpow_natCast] at h
    have hk : k ≤ 308 := le_of_mul_pow_le_safeDecimal hpos (mod_cast h)
    obtain ⟨y, hy, hround⟩ := tenTo?_spec hk
    rw [if_neg (by omega), Int.toNat_natCast, hy, Option.bind_some]
    have hyle : y.value ≤ 10 ^ k * ((2 ^ 53 + 1) / 2 ^ 53) := by
      have := (abs_le.mp hround).2
      linarith
    refine exists_mul? ?_
    calc x.value * y.value
        ≤ digits * ((2 ^ 53 + 1) / 2 ^ 53) * (10 ^ k * ((2 ^ 53 + 1) / 2 ^ 53)) :=
          mul_le_mul (hxle hpos) hyle y.value_nonneg (by positivity)
      _ = digits * 10 ^ k * ((2 ^ 53 + 1) ^ 2 / 2 ^ 106) := by ring
      _ ≤ safeDecimal * ((2 ^ 53 + 1) ^ 2 / 2 ^ 106) := by gcongr
      _ < limit := safeDecimal_mul_lt_limit
  next hexponent =>
    obtain ⟨k, rfl⟩ : ∃ k : Nat, exponent = -((k + 1 : Nat) : Int) :=
      ⟨(-exponent - 1).toNat, by omega⟩
    rw [neg_neg, Int.toNat_natCast]
    by_cases hk : k + 1 ≤ 308
    · obtain ⟨y, hy, hone⟩ := exists_tenTo?_succ hk
      rw [if_pos hk, hy, Option.bind_some]
      exact exists_div? x hone
    obtain ⟨y, hy, hone⟩ := exists_tenTo?_succ (k := 307) le_rfl
    obtain ⟨z, hz⟩ := exists_div? x hone
    rw [if_neg hk, hy, Option.bind_some, hz, Option.bind_some]
    by_cases hk' : k + 1 ≤ 616
    · obtain ⟨y', hy', hone'⟩ := exists_tenTo?_succ (k := k - 308) (by omega)
      rw [if_pos hk', show k + 1 - 308 = k - 308 + 1 by omega, hy', Option.bind_some]
      exact exists_div? z hone'
    · exact ⟨_, if_neg hk'⟩

/-- Where the errors of the roundings could matter, there are few decimals, and they are read. -/
lemma exists_ofDecimal?_of_mem {digits : Nat} (negative : Bool) (hlow : 17976931348623153 < digits)
    (hhigh : digits ≤ 17976931348623157) : ∃ x, ofDecimal? negative digits 292 = some x := by
  obtain ⟨k, hk, rfl⟩ : ∃ k < 4, digits = 17976931348623154 + k :=
    ⟨digits - 17976931348623154, by omega, by omega⟩
  have hread : ∀ negative, ∀ k < 4,
      (ofDecimal? negative (17976931348623154 + k) 292).isSome = true := by
    decide +kernel
  exact Option.isSome_iff_exists.mp (hread negative k hk)

/-- A decimal of at most seventeen digits is read as a double, if it is no larger than the largest
double with so many digits. -/
theorem exists_ofDecimal? {digits : Nat} {exponent : Int} (negative : Bool)
    (hdigits : digits ≤ 10 ^ 17)
    (h : (digits * 10 ^ exponent : ℚ) ≤ 17976931348623157 * 10 ^ (292 : Int)) :
    ∃ x, ofDecimal? negative digits exponent = some x := by
  have hbits : digits < 2 ^ 64 := hdigits.trans_lt (by decide)
  rcases lt_or_ge exponent 292 with hsmall | hlarge
  · refine exists_ofDecimal?_of_le negative hbits ?_
    have hscale : (10 : ℚ) ^ exponent ≤ 10 ^ (291 : Int) :=
      zpow_le_zpow_right₀ (by norm_num) (by omega)
    have hsafe : 10 ^ 17 * 10 ^ 291 ≤ safeDecimal := by
      rw [← pow_add]
      exact pow_le_safeDecimal le_rfl
    calc (digits * 10 ^ exponent : ℚ)
        ≤ 10 ^ 17 * 10 ^ (291 : Int) :=
          mul_le_mul (mod_cast hdigits) hscale (by positivity) (by positivity)
      _ = (10 ^ 17 * 10 ^ 291 : Nat) := by rw [Nat.cast_mul, Nat.cast_pow, Nat.cast_pow]; rfl
      _ ≤ safeDecimal := Nat.cast_le.mpr hsafe
  obtain ⟨k, rfl⟩ : ∃ k : Nat, exponent = k + 292 := ⟨(exponent - 292).toNat, by omega⟩
  have hpow : (0 : ℚ) < 10 ^ (292 : Int) := by positivity
  have hsplit : (digits * 10 ^ ((k : Int) + 292) : ℚ) =
      (digits * 10 ^ k : Nat) * 10 ^ (292 : Int) := by
    rw [zpow_add₀ (by norm_num), zpow_natCast, Nat.cast_mul, Nat.cast_pow, Nat.cast_ofNat,
      mul_assoc]
  have hbound : digits * 10 ^ k ≤ 17976931348623157 := by
    rw [hsplit] at h
    exact_mod_cast le_of_mul_le_mul_right h hpow
  by_cases hsafe : digits * 10 ^ k ≤ 17976931348623153
  · refine exists_ofDecimal?_of_le negative hbits ?_
    rw [hsplit, safeDecimal_eq]
    exact mul_le_mul_of_nonneg_right (mod_cast hsafe) hpow.le
  -- no multiple of ten lies in between
  obtain rfl : k = 0 := by
    cases k with
    | zero => rfl
    | succ k =>
      rw [pow_succ, ← mul_assoc] at hbound hsafe
      omega
  exact exists_ofDecimal?_of_mem negative (by simpa using hsafe) (by simpa using hbound)

end Colloquy.Binary64
