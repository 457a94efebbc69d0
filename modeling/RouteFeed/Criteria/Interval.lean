import RouteFeed.Duration.Text
import RouteFeed.FeedError
import RouteFeed.Seconds
import RouteFeed.Timestamp.Rounding

/-!
# Intervals

An interval is a stretch of time from a first to a last second, both included, or without an end.

## Main definitions

* `Interval`, `Interval.contains` — the type, and the timestamps inside
* `Interval.reaches` — whether a stretch of whole seconds meets an interval
* `readWindow` — the number of seconds of a window such as `2 h`
* `Interval.recent` — the interval of the last such window
-/

namespace RouteFeed

/-- A stretch of time. -/
structure Interval where
  /-- The first second. -/
  start : Seconds
  /-- The last second, if there is one. -/
  stop? : Option Seconds
deriving DecidableEq, Repr

namespace Interval

/-- A second as a timestamp; seconds of more than 53 bits are rounded. -/
def bound (t : Seconds) : Timestamp := Timestamp.ofInt t.toInt

/-- Whether a timestamp is neither before the start nor after the end. -/
def contains (i : Interval) (t : Timestamp) : Bool :=
  (bound i.start).le t &&
    match i.stop? with
    | none => true
    | some stop => t.le (bound stop)

/-- Whether the stretch from `first` to `last` starts before the interval is over and does not end
before it starts. -/
def reaches (i : Interval) (first last : Seconds) : Bool :=
  (match i.stop? with
    | none => true
    | some stop => decide (first ≤ stop)) && decide (i.start ≤ last)

end Interval

/-- The failure of a window that is longer than time goes back. -/
def windowTooLong (window : String) : FeedError :=
  .invalidFilter ("recent interval " ++ window ++ " is too long")

/-- The whole seconds of a window such as `2 h`. -/
def readWindow (window : String) : Except FeedError Seconds :=
  match Duration.read (trim window) with
  | .error e =>
    .error (.invalidFilter ("cannot parse recent interval from " ++ window ++ ": " ++ e.message))
  | .ok d =>
    match Seconds.ofInt? d.seconds with
    | some s => .ok s
    | none => .error (windowTooLong window)

/-- The last window before `now`; with `live` it goes on without an end. -/
def Interval.recent (window : String) (live : Bool) (now : Seconds) :
    Except FeedError Interval := do
  let length ← readWindow window
  match now.sub? length with
  | some start => .ok ⟨start, if live then none else some now⟩
  | none => .error (windowTooLong window)

end RouteFeed
