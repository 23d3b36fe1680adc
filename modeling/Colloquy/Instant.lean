import Colloquy.Text.Decimal

/-!
# Instants

An `Instant` is a point of coordinated universal time: whole seconds since 1970 and nanoseconds
within the second. The nanoseconds may run past a full second, and the instant then lies within a
leap second: it comes after the rest of its second and before the next one. A leap second of the
clock ends a minute (`Instant.LeapEndsMinute`), but one can be added to any second.
`Instant.ofNanos` and `Instant.nanos?` go between instants and counts of nanoseconds; an instant
within a leap second shares its count with an instant of the next second.
-/

namespace Colloquy

/-- Nanoseconds in a second. -/
def nanosPerSecond : Nat := 1000000000

/-- A point of time, to the nanosecond, in the years -262143 to 262142. -/
structure Instant where
  /-- Whole seconds since the start of 1970. -/
  seconds : Int
  /-- Nanoseconds within the second, above one second only within a leap second. -/
  nanos : Nat
  nanos_lt : nanos < 2 * nanosPerSecond
  inRange : -8334601228800 ≤ seconds ∧ seconds ≤ 8210266876799
  deriving DecidableEq

namespace Instant

/-- Seconds first, then nanoseconds. -/
instance : Ord Instant where
  compare a b := (compare a.seconds b.seconds).then (compare a.nanos b.nanos)

/-- The instant with the given seconds and nanoseconds, if there is one. -/
def ofParts? (seconds : Int) (nanos : Nat) : Option Instant :=
  if h : nanos < 2 * nanosPerSecond ∧ -8334601228800 ≤ seconds ∧ seconds ≤ 8210266876799 then
    some ⟨seconds, nanos, h.1, h.2⟩
  else none

/-- Whether an instant lies in the last second of a minute if it lies within a leap second. -/
def LeapEndsMinute (t : Instant) : Prop := nanosPerSecond ≤ t.nanos → t.seconds % 60 = 59

instance (t : Instant) : Decidable t.LeapEndsMinute :=
  inferInstanceAs (Decidable (_ → _))

/-- The number of nanoseconds since the start of 1970. -/
def toNanos (t : Instant) : Int :=
  t.seconds * nanosPerSecond + t.nanos

/-- The number of nanoseconds since the start of 1970, if it is a signed 64-bit integer. -/
def nanos? (t : Instant) : Option Int :=
  if Decimal.InInt64 t.toNanos then some t.toNanos else none

/-- The instant with the given count of nanoseconds; it is never within a leap second. -/
def ofNanos (n : Decimal.Int64) : Instant where
  seconds := n.1 / nanosPerSecond
  nanos := (n.1 % nanosPerSecond).toNat
  nanos_lt := by
    have := n.2; simp only [Decimal.InInt64, nanosPerSecond] at *; omega
  inRange := by
    have := n.2; simp only [Decimal.InInt64, nanosPerSecond] at *; omega

/-- The instant with the given count of nanoseconds, if the count is a signed 64-bit integer. -/
def ofNanos? (n : Int) : Option Instant :=
  if h : Decimal.InInt64 n then some (ofNanos ⟨n, h⟩) else none

/-- The instant that the count of an instant stands for: an instant within a leap second moves into
the next second, and one without a count stays. -/
def recounted (t : Instant) : Instant := (t.nanos?.bind ofNanos?).getD t

end Instant

end Colloquy
