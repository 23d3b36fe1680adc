/-!
# Decimal text of integers

Integers are written in base ten without leading zeros (`Decimal.ofInt`), and signed 64-bit integers
are read back by `Decimal.readInt64`, which also takes a plus sign and leading zeros. Reading goes
from left to right and stops at the first problem, so a text with two faults reports the one that
comes first.
-/

namespace Colloquy.Decimal

/-- The decimal digits of a natural number, most significant first. -/
def ofNat (n : Nat) : List Char :=
  Nat.toDigits 10 n

/-- The decimal text of an integer; only negative ones carry a sign. -/
def ofInt : Int → List Char
  | .ofNat n => ofNat n
  | .negSucc n => '-' :: ofNat (n + 1)

/-- The value of one decimal digit. -/
def digit? (c : Char) : Option Nat :=
  if c.isDigit then some (c.toNat - '0'.toNat) else none

/-- The value of a sequence of decimal digits, continuing from `acc`. -/
def continue? (acc : Nat) : List Char → Option Nat
  | [] => some acc
  | c :: rest => (digit? c).bind fun d => continue? (acc * 10 + d) rest

/-- The value of a non-empty sequence of decimal digits. -/
def read? : List Char → Option Nat
  | [] => none
  | cs => continue? 0 cs

/-- The range of signed 64-bit integers. -/
def InInt64 (n : Int) : Prop :=
  -9223372036854775808 ≤ n ∧ n ≤ 9223372036854775807

instance (n : Int) : Decidable (InInt64 n) :=
  inferInstanceAs (Decidable (_ ∧ _))

/-- Why a text is not a signed 64-bit integer. -/
inductive Fault where
  | empty
  | invalidDigit
  | tooLarge
  | tooSmall
  deriving DecidableEq, Repr

/-- The wording of each fault. -/
def Fault.message : Fault → String
  | .empty => "cannot parse integer from empty string"
  | .invalidDigit => "invalid digit found in string"
  | .tooLarge => "number too large to fit in target type"
  | .tooSmall => "number too small to fit in target type"

/-- A signed 64-bit integer. -/
abbrev Int64 := { n : Int // InInt64 n }

/-- Adds the digits to `acc`, upwards or downwards, and checks the range after every digit. -/
def accumulate (negative : Bool) (acc : Int64) : List Char → Except Fault Int64
  | [] => .ok acc
  | c :: rest =>
    match digit? c with
    | none => .error .invalidDigit
    | some d =>
      let next : Int := if negative then acc.1 * 10 - d else acc.1 * 10 + d
      if h : InInt64 next then accumulate negative ⟨next, h⟩ rest
      else .error (if negative then .tooSmall else .tooLarge)

/-- Reads digits after an optional sign, which must not be alone. -/
def readMagnitude (negative : Bool) (digits : List Char) : Except Fault Int64 :=
  if digits.isEmpty then .error .invalidDigit else accumulate negative ⟨0, by decide⟩ digits

/-- Reads a signed 64-bit integer: at most one sign, then at least one digit. -/
def readInt64 : List Char → Except Fault Int64
  | [] => .error .empty
  | '-' :: digits => readMagnitude true digits
  | '+' :: digits => readMagnitude false digits
  | digits => readMagnitude false digits

end Colloquy.Decimal
