import RouteFeed.Catalogue.Basic

/-!
# Rows of a catalogue

Catalogues that are kept in tables have a row for each chunk, with the time at which the row was
published. A cursor is the latest such time that has been seen, whether the row met the criteria or
not; rows up to that time are not listed again.

## Main definitions

* `Row` — a chunk and the time of its publication
* `Row.after` — the rows that come after a time
* `latestOf` — the latest time of publication
* `selectPublished` — the answer of a catalogue that holds certain rows
-/

namespace RouteFeed

/-- A row of a catalogue. -/
structure Row where
  /-- What it describes. -/
  chunk : Chunk
  /-- When it was published. -/
  published : Seconds
deriving DecidableEq, Repr

/-- Whether a row was published after a time; no time is before all rows. -/
def Row.isAfter (after? : Option Seconds) (r : Row) : Bool :=
  match after? with
  | none => true
  | some after => decide (after < r.published)

/-- The latest of some times, and of an earlier one if there is one. -/
def latestOf (before? : Option Seconds) (times : List Seconds) : Option Seconds :=
  times.foldl (fun latest? t => some (latest?.elim t (·.later t))) before?

/-- The cursor of a time, or the old cursor if there is no time. -/
def Cursor.advance (old : Cursor) (latest? : Option Seconds) : Cursor :=
  match latest? with
  | some t => .ofTime t
  | none => old

/-- The answer of a catalogue that holds certain rows: the chunks of those after the cursor that
meet the criteria, in the order of catalogues. -/
def selectPublished (criteria : Criteria) (cursor : Cursor) (rows : List Row) :
    Except FeedError Answer := do
  let after? ← cursor.time
  let fresh := rows.filter (Row.isAfter after?)
  let chunks := (fresh.map Row.chunk).filter criteria.acceptsChunk
  let latest? := latestOf after? (fresh.map Row.published)
  .ok ⟨sortChunks chunks, cursor.advance latest?⟩

end RouteFeed
