/-!
# Finite binary numbers of double precision

A `Binary64` is a finite IEEE 754 double: a sign and a magnitude. Magnitudes are numbered in
increasing order, which is also how their bits are laid out, and each stands for a whole number
times a power of two. All arithmetic is exact on natural numbers and rounds once at the end, to the
nearest double and from the middle to the even one (`Binary64.nearest?`); a result beyond the
largest double is refused, not made infinite.
-/

namespace Colloquy

/-- A finite double. -/
structure Binary64 where
  negative : Bool
  /-- The place of the magnitude among all magnitudes, zero being the first. -/
  rank : Nat
  finite : rank < 0x7ff0000000000000
  deriving DecidableEq

namespace Binary64

/-- Zero with the given sign. -/
def zero (negative : Bool) : Binary64 := ⟨negative, 0, by decide⟩

/-- The significand of a magnitude: 53 bits, fewer below the smallest normal number. -/
def significand (x : Binary64) : Nat :=
  if x.rank / Nat.pow 2 52 = 0 then x.rank else Nat.pow 2 52 + x.rank % Nat.pow 2 52

/-- The power of two that the significand is multiplied by. -/
def exponent (x : Binary64) : Int :=
  if x.rank / Nat.pow 2 52 = 0 then -1074 else (x.rank / Nat.pow 2 52 : Nat) - 1075

/-- A quotient rounded to the nearest whole number, from the middle to the even one. -/
def roundedQuotient (num den : Nat) : Nat :=
  let q := num / den
  let r := num % den
  if 2 * r < den then q
  else if den < 2 * r then q + 1
  else if q % 2 = 0 then q else q + 1

/-- The quotient `num / den` divided by a power of two, as a numerator and a denominator. -/
def unscale (num den : Nat) (e : Int) : Nat × Nat :=
  if 0 ≤ e then (num, den * Nat.pow 2 e.toNat) else (num * Nat.pow 2 (-e).toNat, den)

/-- The exponent with which a positive quotient gets a significand of 53 bits, or the least one. -/
def fittingExponent (num den : Nat) : Int :=
  let guess : Int := (num.log2 : Int) - den.log2 - 53
  let (n, d) := unscale num den guess
  max (-1074) (if Nat.pow 2 53 * d ≤ n then guess + 1 else guess)

/-- The double nearest to `num / den`, unless that is beyond the largest one. -/
def nearest? (negative : Bool) (num den : Nat) : Option Binary64 :=
  if num = 0 then some (zero negative)
  else
    let e := fittingExponent num den
    let (n, d) := unscale num den e
    let rank := (e + 1074).toNat * Nat.pow 2 52 + roundedQuotient n d
    if h : rank < 0x7ff0000000000000 then some ⟨negative, rank, h⟩ else none

/-- The magnitude as a numerator and a denominator. -/
def ratio (x : Binary64) : Nat × Nat :=
  if 0 ≤ x.exponent then (x.significand * Nat.pow 2 x.exponent.toNat, 1)
  else (x.significand, Nat.pow 2 (-x.exponent).toNat)

/-- The product of two magnitudes, with the sign of the first. -/
def mul? (x y : Binary64) : Option Binary64 :=
  let (a, b) := x.ratio
  let (c, d) := y.ratio
  nearest? x.negative (a * c) (b * d)

/-- The quotient of two magnitudes, with the sign of the first. -/
def div? (x y : Binary64) : Option Binary64 :=
  let (a, b) := x.ratio
  let (c, d) := y.ratio
  nearest? x.negative (a * d) (b * c)

/-- The double nearest to a power of ten. -/
def tenTo? (k : Nat) : Option Binary64 :=
  nearest? false (Nat.pow 10 k) 1

/-- The double that a decimal is read as: its digits as a whole number, times ten to the exponent.
The digits are rounded first, then one product or quotient with a rounded power of ten is taken (two
quotients for the smallest numbers), so the result can differ from the nearest double in its last
place. -/
def ofDecimal? (negative : Bool) (digits : Nat) (exponent : Int) : Option Binary64 := do
  let x ← nearest? negative digits 1
  if digits = 0 then return x
  if 0 ≤ exponent then
    if 308 < exponent then none else x.mul? (← tenTo? exponent.toNat)
  else
    let k := (-exponent).toNat
    if k ≤ 308 then x.div? (← tenTo? k)
    else
      let y ← x.div? (← tenTo? 308)
      if k ≤ 616 then y.div? (← tenTo? (k - 308)) else return zero negative

end Binary64

end Colloquy
