import Colloquy.Binary64

/-!
# Shortest decimals

`Binary64.shortest` finds the decimal with the fewest digits among those that lie closer to a double
than to any other, and of those the one nearest to the double; from the middle it takes the even
digit. The numbers that round to a double form an interval, whose ends belong to it when the
significand is even, and the search tries the two neighbours of the double on the grids of one
digit, two digits, and so on.
-/

namespace Colloquy.Binary64

/-- A positive decimal: a whole number of digits and the power of ten it is multiplied by. -/
structure Decimal where
  digits : Nat
  exponent : Int
  deriving DecidableEq, Repr

/-- The interval of the numbers that round to a positive double. All fields count the same unit,
`1 / den`. -/
structure Basin where
  low : Nat
  value : Nat
  high : Nat
  den : Nat
  /-- Whether the ends belong to the interval. -/
  closed : Bool

/-- The interval of the numbers that round to `x`. Below a power of two the doubles lie closer
together, so there the lower end is nearer. -/
def basin (x : Binary64) : Basin :=
  let m := x.significand
  let below := if m = Nat.pow 2 52 ∧ -1074 < x.exponent then 1 else 2
  let e := x.exponent - 2
  let scale := if 0 ≤ e then Nat.pow 2 e.toNat else 1
  { low := (4 * m - below) * scale
    value := 4 * m * scale
    high := (4 * m + 2) * scale
    den := if 0 ≤ e then 1 else Nat.pow 2 (-e).toNat
    closed := m % 2 = 0 }

/-- Whether `n / d` lies in the interval. -/
def Basin.contains (b : Basin) (n d : Nat) : Bool :=
  let x := n * b.den
  if b.closed then b.low * d ≤ x && x ≤ b.high * d else b.low * d < x && x < b.high * d

/-- The number of decimal places before the point of `value / den`, less one: the greatest `k` with
`10 ^ k ≤ value / den`, among those from `floor` on. -/
def leadingPlace (value den : Nat) : Nat → Int → Int
  | 0, k => k
  | steps + 1, k =>
    let reached :=
      if 0 ≤ k + 1 then den * Nat.pow 10 (k + 1).toNat ≤ value
      else den ≤ value * Nat.pow 10 (-(k + 1)).toNat
    if reached then leadingPlace value den steps (k + 1) else k

/-- The better neighbour of the double on the grid of the multiples of `10 ^ place`. -/
def onGrid? (b : Basin) (place : Int) : Option Decimal :=
  let up := if 0 ≤ place then Nat.pow 10 place.toNat else 1
  let down := if 0 ≤ place then 1 else Nat.pow 10 (-place).toNat
  let lower := b.value * down / (b.den * up)
  let upper := lower + 1
  let pick (n : Nat) : Option Decimal :=
    if 0 < n && b.contains (n * up) down then some ⟨n, place⟩ else none
  match pick lower, pick upper with
  | some d, some d' =>
    let twice := 2 * b.value * down
    let middle := (2 * lower + 1) * b.den * up
    if twice < middle then some d
    else if middle < twice then some d'
    else if lower % 2 = 0 then some d else some d'
  | some d, none => some d
  | none, d' => d'

/-- The shortest decimal of a positive double. Seventeen digits always suffice. -/
def shortest (x : Binary64) : Decimal :=
  let b := x.basin
  let lead := leadingPlace b.value b.den 640 (-325)
  ((List.range 17).findSome? fun (n : Nat) => onGrid? b (lead - n)).getD ⟨0, 0⟩

end Colloquy.Binary64
