/-!
# Durations

A duration is a whole number of nanoseconds whose seconds fit in 64 bits. Sums and multiples stop
at the greatest duration.

## Main definitions

* `Duration` — the type, with its bound
* `Duration.ofNanos` — a number of nanoseconds, or the greatest duration
* `Duration.add`, `Duration.double` — arithmetic that stops at the greatest duration
-/

namespace RouteFeed

/-- The number of nanoseconds of a second. -/
def nanosPerSecond : Nat := 1000000000

/-- The nanoseconds of the greatest duration. -/
def greatestNanos : Nat := (UInt64.size - 1) * nanosPerSecond + 999999999

/-- A length of time in nanoseconds. -/
structure Duration where
  /-- The number of nanoseconds. -/
  nanos : Nat
  /-- The seconds fit in 64 bits. -/
  nanos_le : nanos ≤ greatestNanos
deriving DecidableEq

namespace Duration

/-- A number of nanoseconds, or the greatest duration if that is less. -/
def ofNanos (n : Nat) : Duration := ⟨min n greatestNanos, Nat.min_le_right _ _⟩

/-- A duration of so many seconds and nanoseconds. -/
def ofParts (seconds nanos : Nat) : Duration := ofNanos (seconds * nanosPerSecond + nanos)

/-- No time at all. -/
def zero : Duration := ofNanos 0

/-- The whole seconds. -/
def seconds (d : Duration) : Nat := d.nanos / nanosPerSecond

/-- The nanoseconds beyond the whole seconds. -/
def subNanos (d : Duration) : Nat := d.nanos % nanosPerSecond

/-- The sum, or the greatest duration. -/
def add (d e : Duration) : Duration := ofNanos (d.nanos + e.nanos)

/-- Twice a duration, or the greatest duration. -/
def double (d : Duration) : Duration := ofNanos (d.nanos * 2)

/-- The shorter of two durations. -/
def shorter (d e : Duration) : Duration := if d.nanos ≤ e.nanos then d else e

/-- The longer of two durations. -/
def longer (d e : Duration) : Duration := if d.nanos ≤ e.nanos then e else d

end Duration

end RouteFeed
