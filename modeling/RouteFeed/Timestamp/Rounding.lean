import RouteFeed.Timestamp.Basic

/-!
# Rounding to a timestamp

A ratio of two integers is rounded to the nearest double, and of two equally near ones to the one
whose magnitude is even. The magnitudes number the non-negative doubles in order, so the rounded
ratio is found as a magnitude: with `s` the number of binary digits that do not fit, the nearest
multiple of `2 ^ s` units has the number `s * 2 ^ 52 + q`, where `q` counts these multiples.

## Main definitions

* `roundHalfEven` — the nearest integer of a ratio
* `Timestamp.ofRatio` — the nearest double of a ratio
* `Timestamp.ofInt`, `Timestamp.add`, `Timestamp.ofMicros` — the operations built on it
-/

namespace RouteFeed

/-- The integer nearest to `num / den`; of two equally near ones, the even one. -/
def roundHalfEven (num den : Nat) : Nat :=
  let q := num / den
  let r := num % den
  if 2 * r < den then q
  else if den < 2 * r then q + 1
  else if q % 2 = 0 then q else q + 1

namespace Timestamp

/-- The magnitude of the double nearest to `num / den`, or of infinity if that is too great. -/
def magnitudeOfRatio (num den : Nat) : Nat :=
  let s := (num * unitsPerSecond / den).log2 - 52
  min (s * twoTo 52 + roundHalfEven (num * unitsPerSecond) (den * twoTo s)) infiniteMagnitude

/-- The double nearest to `num / den`, with a sign. -/
def ofRatio (negative : Bool) (num den : Nat) : Timestamp :=
  ofMagnitude negative (magnitudeOfRatio num den)

/-- The double nearest to an integer number of seconds. -/
def ofInt (n : Int) : Timestamp := ofRatio (decide (n < 0)) n.natAbs 1

/-- The double nearest to the exact sum of two finite doubles. -/
def add (s t : Timestamp) : Timestamp :=
  let sum := s.units + t.units
  ofRatio (decide (sum < 0) || (s.isNegative && t.isNegative)) sum.natAbs unitsPerSecond

/-- Whole seconds plus millionths, each rounded before they are added. -/
def ofMicros (seconds micros : Nat) : Timestamp :=
  add (ofInt seconds) (ofRatio false micros 1000000)

/-- The nearest whole number of millionths of a non-negative timestamp. -/
def toMicros (t : Timestamp) : Nat :=
  roundHalfEven (unitsOfMagnitude t.magnitude * 1000000) unitsPerSecond

/-- A non-negative timestamp as a dump keeps it, in whole seconds and millionths. -/
def inMicros (t : Timestamp) : Timestamp := ofMicros (t.toMicros / 1000000) (t.toMicros % 1000000)

end Timestamp

end RouteFeed
