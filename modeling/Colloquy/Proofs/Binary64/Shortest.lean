import Mathlib.Algebra.Notation.Lemmas
import Mathlib.Algebra.Order.Floor.Semifield
import Colloquy.Binary64.Shortest
import Colloquy.Proofs.Binary64

/-!
# Shortest decimals are found

The search for a shortest decimal ends with one (`shortest_spec`): on the grid of seventeen digits
the neighbours of a double lie closer together than the ends of the interval of what rounds to it,
so one of them lies inside. The decimal has seventeen digits at most, and since it rounds to a
double it is read as one (`exists_ofDecimal?`).
-/

namespace Colloquy.Binary64

variable {x : Binary64}

/-- A power is written as a quotient of whole numbers. -/
lemma ite_pow_div (base : Nat) (e : Int) :
    ((if 0 ≤ e then Nat.pow base e.toNat else 1 : Nat) : ℚ) /
      (if 0 ≤ e then 1 else Nat.pow base (-e).toNat : Nat) = base ^ e := by
  split
  next he =>
    obtain ⟨k, rfl⟩ := Int.eq_ofNat_of_zero_le he
    simp
  next he =>
    obtain ⟨k, rfl⟩ : ∃ k : Nat, e = -(k : Int) := ⟨(-e).toNat, by omega⟩
    simp

/-- A double other than zero has a significand other than zero. -/
lemma significand_pos (hx : 0 < x.rank) : 0 < x.significand := by
  unfold significand
  simp only [Nat.pow_eq]
  split <;> omega

/-! ### The interval of a double -/

/-- A quarter of a step. -/
def quarter (x : Binary64) : ℚ := 2 ^ (x.exponent - 2)

/-- A quarter of a step is positive. -/
lemma quarter_pos (x : Binary64) : 0 < x.quarter := by
  unfold quarter
  positivity

/-- A magnitude counts four quarters for each unit of the significand. -/
lemma value_eq_quarter (x : Binary64) : x.value = 4 * x.significand * x.quarter := by
  unfold value quarter
  rw [zpow_sub₀ two_ne_zero]
  norm_num
  ring

/-- The unit of an interval has a denominator other than zero. -/
lemma basin_den_pos (x : Binary64) : 0 < x.basin.den := by
  unfold basin
  exact ite_pos Nat.one_pos (Nat.pow_pos (by decide))

/-- The middle of the interval of a double is its magnitude. -/
lemma basin_value (x : Binary64) : (x.basin.value / x.basin.den : ℚ) = x.value := by
  unfold basin
  dsimp only
  rw [Nat.cast_mul, mul_div_assoc, ite_pow_div, value_eq_quarter]
  push_cast
  rfl

/-- The upper end of the interval of a double lies half a step above it. -/
lemma basin_high (x : Binary64) : (x.basin.high / x.basin.den : ℚ) = x.value + 2 * x.quarter := by
  unfold basin
  dsimp only
  rw [Nat.cast_mul, mul_div_assoc, ite_pow_div, value_eq_quarter]
  push_cast
  rw [quarter]
  ring

/-- The lower end is half a step away, or a quarter at a power of two. -/
lemma basin_low (hx : 0 < x.rank) :
    (x.basin.low / x.basin.den : ℚ) = x.value - 2 * x.quarter ∨
      x.significand = 2 ^ 52 ∧ (x.basin.low / x.basin.den : ℚ) = x.value - x.quarter := by
  have hpos := significand_pos hx
  have hcast : ∀ k : Nat, k ≤ 2 →
      ((4 * x.significand - k : Nat) : ℚ) * x.quarter = x.value - k * x.quarter := by
    intro k hk
    rw [Nat.cast_sub (by omega), value_eq_quarter]
    push_cast
    ring
  unfold basin
  dsimp only
  rw [Nat.cast_mul, mul_div_assoc, ite_pow_div, Nat.cast_ofNat,
    show (2 : ℚ) ^ (x.exponent - 2) = x.quarter from rfl]
  split
  next hpower =>
    refine .inr ⟨hpower.1, ?_⟩
    rw [hcast 1 (by decide)]
    norm_num
  next =>
    refine .inl ?_
    rw [hcast 2 (by decide)]
    norm_num

namespace Basin

variable {b : Basin} {n d : Nat}

/-- A quotient between the ends of an interval is in it. -/
lemma contains_of_lt (hb : 0 < b.den) (hd : 0 < d) (hlow : (b.low / b.den : ℚ) < n / d)
    (hhigh : (n / d : ℚ) < b.high / b.den) : b.contains n d = true := by
  have hb : (0 : ℚ) < b.den := mod_cast hb
  have hd : (0 : ℚ) < d := mod_cast hd
  rw [div_lt_div_iff₀ hb hd] at hlow
  rw [div_lt_div_iff₀ hd hb] at hhigh
  have hlow : b.low * d < n * b.den := mod_cast hlow
  have hhigh : n * b.den < b.high * d := mod_cast hhigh
  unfold contains
  split <;> simp <;> omega

/-- A quotient in an interval is not above its upper end. -/
lemma le_of_contains (hb : 0 < b.den) (hd : 0 < d) (h : b.contains n d = true) :
    (n / d : ℚ) ≤ b.high / b.den := by
  have hb : (0 : ℚ) < b.den := mod_cast hb
  have hd : (0 : ℚ) < d := mod_cast hd
  have hle : n * b.den ≤ b.high * d := by
    unfold contains at h
    split at h <;> simp at h <;> omega
  rw [div_le_div_iff₀ hd hb]
  exact_mod_cast hle

end Basin

/-! ### The grids -/

/-- Whether a power of ten is reached is decided without fractions. -/
lemma reached_iff {value den : Nat} (hden : 0 < den) (k : Int) :
    (if 0 ≤ k then den * Nat.pow 10 k.toNat ≤ value else den ≤ value * Nat.pow 10 (-k).toNat) ↔
      (10 ^ k : ℚ) ≤ value / den := by
  have hpos : (0 : ℚ) < den := mod_cast hden
  rw [le_div_iff₀ hpos]
  split
  next hk =>
    obtain ⟨j, rfl⟩ := Int.eq_ofNat_of_zero_le hk
    rw [Int.toNat_natCast, zpow_natCast, mul_comm den, Nat.pow_eq]
    exact_mod_cast Iff.rfl
  next hk =>
    obtain ⟨j, rfl⟩ : ∃ j : Nat, k = -(j : Int) := ⟨(-k).toNat, by omega⟩
    have hpow : (0 : ℚ) < 10 ^ j := by positivity
    rw [neg_neg, Int.toNat_natCast, zpow_neg, zpow_natCast, ← div_eq_inv_mul, div_le_iff₀ hpow,
      Nat.pow_eq]
    exact_mod_cast Iff.rfl

/-- The search for the leading place ends at it, if it starts below and does not end too early. -/
lemma leadingPlace_spec {value den : Nat} (hden : 0 < den) {steps : Nat} {k : Int}
    (hlow : (10 ^ k : ℚ) ≤ value / den) (hhigh : (value / den : ℚ) < 10 ^ (k + steps + 1)) :
    (10 ^ leadingPlace value den steps k : ℚ) ≤ value / den ∧
      (value / den : ℚ) < 10 ^ (leadingPlace value den steps k + 1) := by
  induction steps generalizing k with
  | zero => exact ⟨hlow, by simpa [leadingPlace] using hhigh⟩
  | succ steps ih =>
    by_cases h : (10 ^ (k + 1) : ℚ) ≤ value / den
    · rw [leadingPlace, if_pos ((reached_iff hden _).mpr h)]
      refine ih h ?_
      rwa [show k + 1 + (steps : Int) + 1 = k + (steps + 1 : Nat) + 1 by push_cast; ring]
    · rw [leadingPlace, if_neg fun hreached => h ((reached_iff hden _).mp hreached)]
      exact ⟨hlow, lt_of_not_ge h⟩

/-- A power of two that is below a power of ten stays below it when both are raised to a power. -/
lemma two_pow_le_ten_pow {m n : Nat} (h : 2 ^ m ≤ 10 ^ n) (k : Nat) :
    2 ^ (m * k) ≤ 10 ^ (n * k) := by
  rw [pow_mul, pow_mul]
  exact Nat.pow_le_pow_left h k

/-- The place of the leading digit of a double. -/
def lead (x : Binary64) : Int := leadingPlace x.basin.value x.basin.den 640 (-325)

/-- A double other than zero lies between the power of ten of its leading place and the next one. -/
lemma lead_spec (hx : 0 < x.rank) :
    (10 ^ x.lead : ℚ) ≤ x.value ∧ x.value < 10 ^ (x.lead + 1) := by
  rw [← basin_value]
  refine leadingPlace_spec x.basin_den_pos ?_ ?_
  · have hone : (1 : ℚ) ≤ x.significand := mod_cast significand_pos hx
    have hten : (2 ^ 1074 : ℚ) ≤ 10 ^ 325 :=
      calc (2 ^ 1074 : ℚ)
          ≤ 10 ^ (54 * 6) := mod_cast two_pow_le_ten_pow (by decide : 2 ^ 179 ≤ 10 ^ 54) 6
        _ ≤ 10 ^ 325 := pow_le_pow_right₀ (by norm_num) (by decide)
    rw [basin_value]
    calc (10 ^ (-325 : Int) : ℚ)
        = (10 ^ 325)⁻¹ := zpow_neg_coe_of_pos _ (by decide)
      _ ≤ (2 ^ 1074)⁻¹ := by gcongr
      _ = 2 ^ (-1074 : Int) := (zpow_neg_coe_of_pos _ (by decide)).symm
      _ ≤ 1 * 2 ^ x.exponent := by
        rw [one_mul]
        exact zpow_le_zpow_right₀ one_le_two x.exponent_le.1
      _ ≤ x.value := by
        unfold value
        gcongr
  · have hlimit : (2 ^ 54 - 1) * 2 ^ 970 ≤ 10 ^ 316 :=
      calc (2 ^ 54 - 1) * 2 ^ 970
          ≤ 2 ^ 54 * 2 ^ 970 := Nat.mul_le_mul_right _ (by decide)
        _ = 2 ^ (54 + 970) := (pow_add 2 54 970).symm
        _ ≤ 10 ^ (39 * 8) := two_pow_le_ten_pow (by decide : 2 ^ 128 ≤ 10 ^ 39) 8
        _ ≤ 10 ^ 316 := pow_le_pow_right₀ (by decide) (by decide)
    rw [basin_value]
    calc x.value
        < limit := x.value_lt_limit
      _ ≤ (10 ^ 316 : Nat) := by
        rw [limit_eq]
        exact Nat.cast_le.mpr hlimit
      _ = 10 ^ (-325 + (640 : Nat) + 1 : Int) := by
        rw [Nat.cast_pow]
        rfl

/-! ### The neighbours on a grid -/

/-- The multiple of a power of ten just below a quotient. -/
def below (b : Basin) (place : Int) : Nat :=
  b.value * (if 0 ≤ place then 1 else Nat.pow 10 (-place).toNat) /
    (b.den * if 0 ≤ place then Nat.pow 10 place.toNat else 1)

/-- A multiple of a power of ten, if it is in the interval. -/
def inside? (b : Basin) (place : Int) (n : Nat) : Option Decimal :=
  if 0 < n && b.contains (n * if 0 ≤ place then Nat.pow 10 place.toNat else 1)
    (if 0 ≤ place then 1 else Nat.pow 10 (-place).toNat) then some ⟨n, place⟩ else none

/-- A decimal is in an interval exactly if it is positive and the interval contains it. -/
lemma inside?_eq_some_iff {b : Basin} {place : Int} {n : Nat} {d : Decimal} :
    inside? b place n = some d ↔ (0 < n ∧
      b.contains (n * if 0 ≤ place then Nat.pow 10 place.toNat else 1)
        (if 0 ≤ place then 1 else Nat.pow 10 (-place).toNat) = true) ∧ d = ⟨n, place⟩ := by
  simp [inside?, eq_comm (a := d)]

/-- A grid gives one of the two neighbours of the double. -/
lemma onGrid?_eq_some {b : Basin} {place : Int} {d : Decimal} (h : onGrid? b place = some d) :
    inside? b place (below b place) = some d ∨ inside? b place (below b place + 1) = some d := by
  have hchoice : ∀ {p q r : Prop} [Decidable p] [Decidable q] [Decidable r]
      {a b c : Option Decimal},
      (if p then a else if q then b else if r then a else b) = c → a = c ∨ b = c := by
    intro p q r _ _ _ a b c h
    split_ifs at h <;> simp [h]
  unfold onGrid? at h
  dsimp only at h
  split at h
  next hlower hupper => exact (hchoice h).imp hlower.trans hupper.trans
  next hlower hupper => exact .inl (hlower.trans h)
  next => exact .inr h

/-- A grid gives something, if a neighbour of the double lies in the interval. -/
lemma exists_onGrid? {b : Basin} {place : Int} (h : (inside? b place (below b place)).isSome ∨
    (inside? b place (below b place + 1)).isSome) : ∃ d, onGrid? b place = some d := by
  have hchoice : ∀ {p q r : Prop} [Decidable p] [Decidable q] [Decidable r] {a b : Decimal},
      ∃ c, (if p then some a else if q then some b else if r then some a else some b) = some c := by
    intro p q r _ _ _ a b
    split_ifs <;> exact ⟨_, rfl⟩
  unfold onGrid?
  dsimp only
  split
  next => exact hchoice
  next d hlower hupper => exact ⟨d, rfl⟩
  next hlower =>
    have hnone : inside? b place (below b place) = none := hlower
    exact Option.isSome_iff_exists.mp (h.resolve_left (by simp [hnone]))

/-- The neighbours of a double on a grid. -/
lemma below_spec (x : Binary64) (place : Int) :
    (below x.basin place * 10 ^ place : ℚ) ≤ x.value ∧
      x.value < (below x.basin place + 1) * 10 ^ place := by
  have hden : 0 < x.basin.den := x.basin_den_pos
  rw [← basin_value, ← Nat.cast_ofNat (n := 10), ← ite_pow_div, below]
  have hup : 0 < (if 0 ≤ place then Nat.pow 10 place.toNat else 1) :=
    ite_pos (Nat.pow_pos (by decide)) Nat.one_pos
  have hdown : 0 < (if 0 ≤ place then 1 else Nat.pow 10 (-place).toNat) :=
    ite_pos Nat.one_pos (Nat.pow_pos (by decide))
  generalize (if 0 ≤ place then Nat.pow 10 place.toNat else 1) = up at *
  generalize (if 0 ≤ place then 1 else Nat.pow 10 (-place).toNat) = down at *
  generalize x.basin.value = value at *
  generalize x.basin.den = den at *
  have hlow : value * down / (den * up) * (den * up) ≤ value * down := Nat.div_mul_le_self _ _
  have hhigh : value * down < (value * down / (den * up) + 1) * (den * up) :=
    (Nat.div_lt_iff_lt_mul (Nat.mul_pos hden hup)).mp (Nat.lt_succ_self _)
  generalize value * down / (den * up) = n at *
  have hlow : (n * (den * up) : ℚ) ≤ value * down := mod_cast hlow
  have hhigh : (value * down : ℚ) < (n + 1) * (den * up) := mod_cast hhigh
  have hden : (0 : ℚ) < den := mod_cast hden
  have hdown : (0 : ℚ) < down := mod_cast hdown
  rw [← mul_div_assoc, ← mul_div_assoc, div_le_div_iff₀ hdown hden, div_lt_div_iff₀ hden hdown]
  constructor <;> linarith

/-- What lies in the interval is no larger than its upper end. -/
lemma le_of_inside? {place : Int} {n : Nat} {d : Decimal}
    (h : inside? x.basin place n = some d) : 0 < n ∧ d = ⟨n, place⟩ ∧
      (n * 10 ^ place : ℚ) ≤ x.value + 2 * x.quarter := by
  obtain ⟨⟨hpos, hcontains⟩, rfl⟩ := inside?_eq_some_iff.mp h
  refine ⟨hpos, rfl, ?_⟩
  have hdown : 0 < (if 0 ≤ place then 1 else Nat.pow 10 (-place).toNat) :=
    ite_pos Nat.one_pos (Nat.pow_pos (by decide))
  have hle := Basin.le_of_contains x.basin_den_pos hdown hcontains
  rw [basin_high, Nat.cast_mul, mul_div_assoc, ite_pow_div, Nat.cast_ofNat] at hle
  exact hle

/-- What is strictly between the ends lies in the interval. -/
lemma isSome_inside? {place : Int} {n : Nat} (hpos : 0 < n)
    (hlow : (x.basin.low / x.basin.den : ℚ) < n * 10 ^ place)
    (hhigh : (n * 10 ^ place : ℚ) < x.value + 2 * x.quarter) :
    (inside? x.basin place n).isSome := by
  have hdown : 0 < (if 0 ≤ place then 1 else Nat.pow 10 (-place).toNat) :=
    ite_pos Nat.one_pos (Nat.pow_pos (by decide))
  rw [← basin_high] at hhigh
  rw [← Nat.cast_ofNat (n := 10), ← ite_pow_div, ← mul_div_assoc, ← Nat.cast_mul] at hlow hhigh
  have hcontains := Basin.contains_of_lt x.basin_den_pos hdown hlow hhigh
  exact Option.isSome_iff_exists.mpr ⟨_, inside?_eq_some_iff.mpr ⟨⟨hpos, hcontains⟩, rfl⟩⟩

/-- On the grid of seventeen digits one of the neighbours of the double lies in the interval, since
the grid is finer than the interval is wide. -/
lemma exists_onGrid?_lead (hx : 0 < x.rank) : ∃ d, onGrid? x.basin (x.lead - 16) = some d := by
  obtain ⟨hlead, -⟩ := lead_spec hx
  obtain ⟨hbelow, habove⟩ := below_spec x (x.lead - 16)
  have hquarter := x.quarter_pos
  have hgrid : (0 : ℚ) < 10 ^ (x.lead - 16) := by positivity
  have hsteps : (10 ^ 16 * 10 ^ (x.lead - 16) : ℚ) ≤ x.value := by
    rw [← zpow_natCast, ← zpow_add₀ (by norm_num)]
    exact hlead.trans_eq' (congrArg _ (by push_cast; ring))
  have hpos : 0 < below x.basin (x.lead - 16) := by
    by_contra hzero
    rw [show below x.basin (x.lead - 16) = 0 by omega, Nat.cast_zero, zero_add, one_mul] at habove
    linarith
  have hvalue := x.value_eq_quarter
  -- not both neighbours can lie outside
  have hinside : (x.basin.low / x.basin.den : ℚ) <
      below x.basin (x.lead - 16) * 10 ^ (x.lead - 16) ∨
      (below x.basin (x.lead - 16) + 1 : ℚ) * 10 ^ (x.lead - 16) < x.value + 2 * x.quarter := by
    by_contra hout
    obtain ⟨hlow, hhigh⟩ := not_or.mp hout
    rcases basin_low hx with hstep | ⟨hpower, hstep⟩
    · have hbits : (x.significand : ℚ) ≤ 2 ^ 53 := mod_cast x.significand_lt.le
      have hscaled : x.significand * x.quarter ≤ 2 ^ 53 * x.quarter := by gcongr
      linarith
    · rw [hpower] at hvalue
      push_cast at hvalue
      linarith
  refine exists_onGrid? (hinside.imp (fun hlow => ?_) fun hhigh => ?_)
  · exact isSome_inside? hpos hlow (by linarith)
  · have hlow : (x.basin.low / x.basin.den : ℚ) ≤ x.value - x.quarter := by
      rcases basin_low hx with hstep | ⟨-, hstep⟩ <;> linarith
    refine isSome_inside? (Nat.succ_pos _) ?_ ?_
    · push_cast
      linarith
    · push_cast
      exact hhigh

/-- The shortest decimal has a digit, and seventeen at most, and is no larger than what rounds to
the double. -/
lemma shortest_le (hx : 0 < x.rank) : 0 < x.shortest.digits ∧ x.shortest.digits ≤ 10 ^ 17 ∧
    (x.shortest.digits * 10 ^ x.shortest.exponent : ℚ) ≤ x.value + 2 * x.quarter := by
  have hsearch : ((List.range 17).findSome? fun (n : Nat) =>
      onGrid? x.basin (x.lead - n)).isSome := by
    obtain ⟨d, hd⟩ := exists_onGrid?_lead hx
    exact List.findSome?_isSome_iff.mpr ⟨16, by simp, by simp [hd]⟩
  obtain ⟨d, hd⟩ := Option.isSome_iff_exists.mp hsearch
  have hshortest : x.shortest = d := by
    change ((List.range 17).findSome? fun (n : Nat) => onGrid? x.basin (x.lead - n)).getD ⟨0, 0⟩ = d
    rw [hd, Option.getD_some]
  obtain ⟨n, hn, hgrid⟩ := List.exists_of_findSome?_eq_some hd
  have hplaces : below x.basin (x.lead - n) + 1 ≤ 10 ^ 17 := by
    have hpow : (0 : ℚ) < 10 ^ (x.lead - n) := by positivity
    have hsplit : (10 ^ (x.lead + 1) : ℚ) = 10 ^ (n + 1) * 10 ^ (x.lead - n) := by
      rw [← zpow_natCast, ← zpow_add₀ (by norm_num)]
      congr 1
      push_cast
      ring
    have hlt := (below_spec x (x.lead - n)).1.trans_lt (lead_spec hx).2
    rw [hsplit] at hlt
    have hdigits : (below x.basin (x.lead - n) : ℚ) < 10 ^ (n + 1) :=
      lt_of_mul_lt_mul_right hlt hpow.le
    have hdigits : below x.basin (x.lead - n) < 10 ^ (n + 1) := mod_cast hdigits
    exact hdigits.trans_le (Nat.pow_le_pow_right (by decide) (List.mem_range.mp hn))
  rw [hshortest]
  rcases onGrid?_eq_some hgrid with hinside | hinside
  · obtain ⟨hpos, rfl, hle⟩ := le_of_inside? hinside
    exact ⟨hpos, by dsimp only; omega, hle⟩
  · obtain ⟨hpos, rfl, hle⟩ := le_of_inside? hinside
    exact ⟨hpos, hplaces, hle⟩

/-! ### The largest doubles -/

/-- What rounds to a double other than the largest ones has room below the limit. -/
lemma value_add_le (h : x.rank ≠ 0x7fefffffffffffff) :
    x.value + 2 * x.quarter ≤ 17976931348623157 * 10 ^ (292 : Int) := by
  have hbound : ((2 ^ 54 - 3) * 2 ^ (970 : Int) : ℚ) ≤ 17976931348623157 * 10 ^ (292 : Int) := by
    have htwo : (2 : ℚ) ^ (970 : Int) = (2 ^ 970 : Nat) := by
      rw [Nat.cast_pow]
      exact zpow_natCast _ 970
    have hten : (10 : ℚ) ^ (292 : Int) = (10 ^ 292 : Nat) := by
      rw [Nat.cast_pow]
      exact zpow_natCast _ 292
    have hodd : (2 ^ 54 - 3 : ℚ) = (2 ^ 54 - 3 : Nat) := by norm_num
    rw [htwo, hten, hodd, ← Nat.cast_ofNat (n := 17976931348623157), ← Nat.cast_mul, ← Nat.cast_mul]
    exact Nat.cast_le.mpr (by decide +kernel)
  refine le_trans ?_ hbound
  have hhalf : x.value + 2 * x.quarter = (x.significand + 1 / 2) * 2 ^ x.exponent := by
    rw [value_eq_quarter, quarter, zpow_sub₀ two_ne_zero]
    norm_num
    ring
  rw [hhalf]
  have hpow : (0 : ℚ) < 2 ^ (970 : Int) := by positivity
  rcases lt_or_eq_of_le x.exponent_le.2 with hsmall | hlarge
  · have hbits : (x.significand : ℚ) ≤ 2 ^ 53 := mod_cast x.significand_lt.le
    calc ((x.significand + 1 / 2) * 2 ^ x.exponent : ℚ)
        ≤ (2 ^ 53 + 1 / 2) * 2 ^ (970 : Int) := by
          have hscale : (2 : ℚ) ^ x.exponent ≤ 2 ^ (970 : Int) :=
            zpow_le_zpow_right₀ one_le_two (by omega)
          gcongr
      _ ≤ (2 ^ 54 - 3) * 2 ^ (970 : Int) := by
          gcongr
          norm_num
  · have hbits : x.significand + 2 ≤ 2 ^ 53 := by
      have := x.finite
      unfold exponent at hlarge
      unfold significand
      simp only [Nat.pow_eq] at hlarge ⊢
      split at hlarge <;> split <;> omega
    have hbits : (x.significand + 2 : ℚ) ≤ 2 ^ 53 := mod_cast hbits
    rw [hlarge, show (971 : Int) = 970 + 1 by rfl, zpow_add_one₀ two_ne_zero]
    generalize (2 : ℚ) ^ (970 : Int) = scale at hpow ⊢
    calc ((x.significand + 1 / 2) * (scale * 2) : ℚ)
        = (2 * (x.significand + 2) - 3) * scale := by ring
      _ ≤ (2 * 2 ^ 53 - 3) * scale := by gcongr
      _ = (2 ^ 54 - 3) * scale := by ring

/-- The shortest decimals of the largest doubles. -/
lemma shortest_largest (h : x.rank = 0x7fefffffffffffff) :
    x.shortest = ⟨17976931348623157, 292⟩ := by
  have hboth : ∀ negative, (⟨negative, 0x7fefffffffffffff, by decide⟩ : Binary64).shortest =
      ⟨17976931348623157, 292⟩ := by
    decide +kernel
  obtain ⟨negative, rank, hfinite⟩ := x
  subst h
  exact hboth negative

/-- The shortest decimal has a digit, and seventeen at most, and is no larger than that of the
largest double. -/
theorem shortest_spec (hx : 0 < x.rank) : 0 < x.shortest.digits ∧ x.shortest.digits ≤ 10 ^ 17 ∧
    (x.shortest.digits * 10 ^ x.shortest.exponent : ℚ) ≤ 17976931348623157 * 10 ^ (292 : Int) := by
  by_cases hlargest : x.rank = 0x7fefffffffffffff
  · rw [shortest_largest hlargest]
    norm_num
  · obtain ⟨hpos, hdigits, hle⟩ := shortest_le hx
    exact ⟨hpos, hdigits, hle.trans (value_add_le hlargest)⟩

end Colloquy.Binary64
