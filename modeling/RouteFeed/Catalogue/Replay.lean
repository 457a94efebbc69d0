import RouteFeed.Catalogue.Basic

/-!
# Replayed catalogues

A replayed catalogue gives answers that were written down in advance, one for each question, and
remembers the cursors that it was asked with. When nothing is left it has no more chunks, or fails.
It serves to exercise a feed under any course of answers.

## Main definitions

* `Reply` — one answer of a script
* `Replay` — the catalogue
* `Replay.ask` — what it answers
-/

namespace RouteFeed

/-- One answer of a script. -/
inductive Reply where
  /-- A failure. -/
  | failure (error : FeedError)
  /-- Chunks, and the place to go on from; if none is given, the number of questions so far. -/
  | chunks (chunks : List Chunk) (next? : Option Cursor)

/-- A catalogue that replays a script. -/
structure Replay where
  /-- Its name. -/
  name : String
  /-- What it is. -/
  description : String
  /-- Its settings. -/
  settings : Settings
  /-- The answers that are left. -/
  script : List Reply
  /-- How many questions get an empty answer when no answer is left; after them it fails. -/
  patience : Nat
  /-- The failures, or successes, of the next starts. -/
  starts : List (Option FeedError)
  /-- The cursors of all questions so far. -/
  asked : List Cursor := []

namespace Replay

/-- The failure when nothing is left. -/
def exhausted : FeedError := .misconfigured "script exhausted"

/-- The cursor that counts the questions so far. -/
def counted (r : Replay) : Cursor := .ofText (Numeral.printNat r.asked.length)

/-- The answer to a question. -/
def ask (r : Replay) (cursor : Cursor) : Except FeedError Answer × Replay :=
  let r := { r with asked := r.asked ++ [cursor] }
  match r.script with
  | .failure e :: script => (.error e, { r with script := script })
  | .chunks chunks next? :: script =>
    (.ok ⟨chunks, next?.getD r.counted⟩, { r with script := script })
  | [] =>
    match r.patience with
    | 0 => (.error exhausted, r)
    | patience + 1 => (.ok ⟨[], r.counted⟩, { r with patience := patience })

/-- Starts the catalogue. -/
def begin (r : Replay) : Except FeedError Unit × Replay :=
  match r.starts with
  | [] => (.ok (), r)
  | none :: starts => (.ok (), { r with starts := starts })
  | some e :: starts => (.error e, { r with starts := starts })

instance : Catalogue Replay where
  name := name
  description := description
  settings := settings
  set r option value :=
    (r.settings.set r.name option value).map fun settings => { r with settings := settings }
  start := begin
  query r _ cursor := r.ask cursor

end Replay

end RouteFeed
