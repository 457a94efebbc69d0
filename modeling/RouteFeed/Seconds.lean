/-!
# Seconds

Catalogue times and durations of coverage are whole seconds in a signed 64-bit word. A catalogue
may hold any such word, so every sum that the library forms is one of two kinds: a *saturating* sum,
which stops at the ends of the range, or a *plain* sum, written `+`, which wraps around. A program
that is built to check its sums stops where a plain sum wraps around.

## Main definitions

* `Seconds` — the type of times and spans
* `Seconds.satAdd`, `Seconds.satSub` — sums and differences that stop at the ends of the range
* `Seconds.ofInt?` — an integer, if it is in range
-/

namespace RouteFeed

/-- Whole seconds: a time counted from the start of 1970, or a span. -/
abbrev Seconds := Int64

namespace Seconds

/-- The least time. -/
def least : Seconds := Int64.minValue

/-- The greatest time. -/
def greatest : Seconds := Int64.maxValue

/-- An integer as a time, if it is in range. -/
def ofInt? (n : Int) : Option Seconds :=
  if least.toInt ≤ n ∧ n ≤ greatest.toInt then some (Int64.ofInt n) else none

/-- The sum, or the end of the range that it passes. -/
def satAdd (a b : Seconds) : Seconds := Int64.ofIntClamp (a.toInt + b.toInt)

/-- The difference, or the end of the range that it passes. -/
def satSub (a b : Seconds) : Seconds := Int64.ofIntClamp (a.toInt - b.toInt)

/-- The difference, if it is in range. -/
def sub? (a b : Seconds) : Option Seconds := ofInt? (a.toInt - b.toInt)

/-- The later of two times. -/
def later (a b : Seconds) : Seconds := if a ≤ b then b else a

end Seconds

end RouteFeed
