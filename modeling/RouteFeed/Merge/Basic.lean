import RouteFeed.Merge.Lane

/-!
# Merging open dumps

A merge keeps several dumps open and delivers their records, each time from the lane that comes
first in the order of lanes. A dump that cannot be opened is left out without a word. A dump whose
decoding fails is closed, and the failure is delivered before any further record.

A merge knows nothing of files: `Opener` says what opening a chunk leads to.

## Main definitions

* `Opener` — what opening a chunk leads to
* `Merge` — the open dumps and the failures that wait
* `Merge.add` — opens chunks
* `Merge.next` — delivers the next record or failure
-/

namespace RouteFeed

/-- What opening a chunk leads to: its contents or a failure. -/
abbrev Opener := Chunk → Except FeedError Contents

/-- Several open dumps. -/
structure Merge where
  /-- What opening a chunk leads to. -/
  opener : Opener
  /-- The open dumps. -/
  lanes : List Lane := []
  /-- The failures that have not been delivered, the oldest first. -/
  failures : List FeedError := []
  /-- The number of the next lane. -/
  nextNumber : Nat := 0

namespace Merge

/-- No dump is open and no failure waits. -/
def isEmpty (m : Merge) : Bool := m.lanes.isEmpty && m.failures.isEmpty

/-- Opens a chunk. -/
def addChunk (criteria : Criteria) (m : Merge) (chunk : Chunk) : Merge :=
  match m.opener chunk with
  | .error _ => m
  | .ok contents =>
    match contents.pull criteria with
    | .found head rest =>
      { m with
        lanes := m.lanes ++ [⟨chunk, head, rest, m.nextNumber, 0⟩]
        nextNumber := m.nextNumber + 1 }
    | .finished => m
    | .failed e => { m with failures := m.failures ++ [e] }

/-- Opens chunks, one after another. -/
def add (criteria : Criteria) (chunks : List Chunk) (m : Merge) : Merge :=
  chunks.foldl (addChunk criteria) m

/-- Delivers the head of a lane; `others` are the lanes that stay as they are. -/
def deliver (criteria : Criteria) (m : Merge) (lane : Lane) (others : List Lane) :
    Record × Merge :=
  match lane.rest.pull criteria with
  | .found head rest =>
    let position := if lane.delivered = 0 then Position.first else .middle
    let lane' : Lane :=
      { lane with head := head, rest := rest, delivered := lane.delivered + 1 }
    (lane.head.ofChunk lane.chunk position, { m with lanes := others ++ [lane'] })
  | .finished => (lane.head.ofChunk lane.chunk .last, { m with lanes := others })
  | .failed e =>
    (lane.head.ofChunk lane.chunk .last,
      { m with lanes := others, failures := m.failures ++ [e] })

/-- Delivers a failure that waits, or else the record that comes first; nothing if no dump is
open. -/
def next (criteria : Criteria) (m : Merge) : Except FeedError (Option Record) × Merge :=
  match m.failures with
  | e :: failures => (.error e, { m with failures := failures })
  | [] =>
    match leastLane? m.lanes with
    | none => (.ok none, m)
    | some (lane, others) =>
      let (record, m) := m.deliver criteria lane others
      (.ok (some record), m)

/-- Closes all dumps and forgets the failures that wait. -/
def clear (m : Merge) : Merge := { m with lanes := [], failures := [] }

end Merge

end RouteFeed
