import RouteFeed.FeedError
import RouteFeed.Numeral

/-!
# Cursors

A cursor is a place in a catalogue: what has been listed up to there is not listed again. A cursor
means something only to the catalogue that gave it out. Catalogues that list by time of publication
give out the time of the latest row, as a decimal numeral.

## Main definitions

* `Cursor`, `Cursor.start` — the type, and the place where every feed starts
* `Cursor.ofTime`, `Cursor.time` — times as cursors
-/

namespace RouteFeed

/-- A place in a catalogue. -/
structure Cursor where
  /-- The text that the catalogue gave out; none at the start. -/
  text? : Option String
deriving DecidableEq, Repr

namespace Cursor

/-- The start of a catalogue. -/
def start : Cursor := ⟨none⟩

/-- A place that a catalogue names by a text. -/
def ofText (text : String) : Cursor := ⟨some text⟩

/-- Whether nothing has been listed. -/
def isStart (c : Cursor) : Bool := c.text?.isNone

/-- The place behind all that was published up to a time. -/
def ofTime (t : Seconds) : Cursor := ofText (Numeral.print t.toInt)

/-- The time that a cursor stands for; none at the start. -/
def time (c : Cursor) : Except FeedError (Option Seconds) :=
  match c.text? with
  | none => .ok none
  | some text =>
    match Numeral.seconds? text with
    | some t => .ok (some t)
    | none => .error (.misconfigured ("invalid timestamp cursor " ++ text))

end Cursor

end RouteFeed
