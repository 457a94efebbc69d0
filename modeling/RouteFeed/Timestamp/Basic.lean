import RouteFeed.Power

/-!
# Timestamps

The time of a record is a double-precision number of seconds, kept as its 64 bits. The lowest 63
bits are the *magnitude*, the highest is the sign. Every finite double is a whole multiple of
2 ^ -1074, so comparisons are made on integers, in units of 2 ^ -1074.

Two orders are in use. `Timestamp.le` compares values, so that a NaN is comparable with nothing and
the two zeros are equal; `Timestamp.orderKey` embeds all bit patterns into the integers, NaNs at the
outer ends and the negative zero just below the positive one, and so gives a total order.

## Main definitions

* `Timestamp` — the 64 bits of a double
* `Timestamp.units` — the value in units of 2 ^ -1074
* `Timestamp.le` — comparison of values
* `Timestamp.orderKey` — the place in the total order
-/

namespace RouteFeed

/-- The 64 bits of a double-precision number of seconds. -/
structure Timestamp where
  /-- Sign, exponent and fraction, from the highest bit to the lowest. -/
  bits : UInt64
deriving DecidableEq, Repr

namespace Timestamp

/-- The sign bit. -/
def isNegative (t : Timestamp) : Bool := twoTo 63 ≤ t.bits.toNat

/-- Exponent and fraction. -/
def magnitude (t : Timestamp) : Nat := t.bits.toNat % twoTo 63

/-- The timestamp with this sign and this magnitude, which is below 2 ^ 63. -/
def ofMagnitude (negative : Bool) (magnitude : Nat) : Timestamp :=
  ⟨UInt64.ofNat ((if negative then twoTo 63 else 0) + magnitude)⟩

/-- The magnitude of the infinities; those above it are the NaNs. -/
def infiniteMagnitude : Nat := 2047 * twoTo 52

/-- Neither an infinity nor a NaN. -/
def isFinite (t : Timestamp) : Bool := t.magnitude < infiniteMagnitude

/-- Not a number. -/
def isNaN (t : Timestamp) : Bool := infiniteMagnitude < t.magnitude

/-- The absolute value that a magnitude stands for, in units of 2 ^ -1074. An infinity gets the
value that would follow the greatest finite one. -/
def unitsOfMagnitude (m : Nat) : Nat :=
  if m < twoTo 52 then m else (twoTo 52 + m % twoTo 52) * twoTo (m / twoTo 52 - 1)

/-- The value in units of 2 ^ -1074. -/
def units (t : Timestamp) : Int :=
  if t.isNegative then -(unitsOfMagnitude t.magnitude : Int) else unitsOfMagnitude t.magnitude

/-- The number of units in one second. -/
def unitsPerSecond : Nat := twoTo 1074

/-- Comparison of values: a NaN is comparable with nothing, and the two zeros are equal. -/
def le (s t : Timestamp) : Bool := !s.isNaN && !t.isNaN && decide (s.units ≤ t.units)

/-- The place in the total order of all bit patterns. -/
def orderKey (t : Timestamp) : Int :=
  if t.isNegative then -1 - (t.magnitude : Int) else t.magnitude

end Timestamp

end RouteFeed
