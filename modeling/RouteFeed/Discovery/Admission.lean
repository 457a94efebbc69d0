import RouteFeed.Criteria.Basic

/-!
# Admission of chunks

Of the chunks that a catalogue lists, those are admitted that have not been listed lately and that
the sampling of tables lets through.

A chunk counts as listed again if its key was listed before in the same answer, or in an earlier one
unless its time has fallen more than a week behind the latest time listed by then. Sampling admits a
table if it is the first of its collector or comes at least one period after the one that was
admitted last.

The end of this period is a plain sum. A program that is built to check its sums stops when one of
them leaves the range; another one goes on with the sum that has wrapped around. What is remembered
is what the latter remembers, together with whether the former has stopped.

## Main definitions

* `Build` — how a program is built
* `Admission` — what is remembered of the chunks so far
* `Admission.sampled` — whether sampling lets a chunk through
* `Admission.overflows` — whether the sum for this leaves the range
* `Admission.offer` — offers one chunk
* `Admission.offerAll` — offers the chunks of one answer
-/

namespace RouteFeed

/-- The seconds after which a chunk is forgotten. -/
def horizonLength : Seconds := 7 * 86400

/-- What a program does at a sum that leaves the range. -/
inductive Build where
  /-- It stops. -/
  | checked
  /-- It goes on, and the sum wraps around. -/
  | unchecked
deriving DecidableEq, Repr

/-- What is remembered of the chunks that a catalogue has listed. -/
structure Admission where
  /-- The keys of chunks that are not too old. -/
  seen : List ChunkKey := []
  /-- The latest time of a chunk. -/
  newest : Seconds := Seconds.least
  /-- For each collector the time of the last table that sampling let through. -/
  lastRib : List (String × Seconds) := []
  /-- Whether a sum has left the range. -/
  overflowed : Bool := false
deriving DecidableEq

namespace Admission

/-- The time of the last table of a collector that sampling let through. -/
def lastRibOf (a : Admission) (collector : String) : Option Seconds :=
  (a.lastRib.find? fun entry => entry.1 = collector).map Prod.snd

/-- Remembers the time of a table. -/
def noteRib (a : Admission) (collector : String) (time : Seconds) : Admission :=
  { a with lastRib := (collector, time) :: a.lastRib.filter fun entry => entry.1 ≠ collector }

/-- Remembers that a chunk was listed. -/
def noteChunk (a : Admission) (c : Chunk) : Admission :=
  { a with seen := c.key :: a.seen, newest := a.newest.later c.fileTime }

/-- Whether the period after the last table of the collector is over. -/
def sampled (a : Admission) (period : UInt32) (c : Chunk) : Bool :=
  match a.lastRibOf c.collector with
  | none => true
  | some last => ¬ (c.fileTime < last + Int64.ofNat period.toNat)

/-- Whether the end of the period after the last table of the collector lies beyond the range. -/
def overflows (a : Admission) (period : UInt32) (c : Chunk) : Bool :=
  (a.lastRibOf c.collector).any fun last => Seconds.greatest.toInt < last.toInt + period.toNat

/-- Remembers whether the sum that decides about a table leaves the range. -/
def noteSum (a : Admission) (period : UInt32) (c : Chunk) : Admission :=
  { a with overflowed := a.overflowed || a.overflows period c }

/-- Offers a chunk: whether it is admitted, and what is remembered then. -/
def offer (period? : Option UInt32) (a : Admission) (c : Chunk) : Bool × Admission :=
  if c.key ∈ a.seen then (false, a)
  else
    let noted := a.noteChunk c
    match c.kind, period? with
    | .rib, some period =>
      let noted := noted.noteSum period c
      if noted.sampled period c then (true, noted.noteRib c.collector c.fileTime)
      else (false, noted)
    | _, _ => (true, noted)

/-- Offers chunks one after another: those that are admitted, and what is remembered then. -/
def offerEach (period? : Option UInt32) : List Chunk → Admission → List Chunk × Admission
  | [], a => ([], a)
  | c :: rest, a =>
    let (admitted, a) := offer period? a c
    let (others, a) := offerEach period? rest a
    (if admitted then c :: others else others, a)

/-- Chunks before this time are forgotten. -/
def horizon (a : Admission) : Seconds := a.newest.satSub horizonLength

/-- Forgets the chunks that are too old. -/
def forget (a : Admission) : Admission :=
  { a with seen := a.seen.filter fun key => a.horizon ≤ key.fileTime }

/-- Offers the chunks of one answer. -/
def offerAll (period? : Option UInt32) (chunks : List Chunk) (a : Admission) :
    List Chunk × Admission :=
  let (admitted, a) := offerEach period? chunks a
  (admitted, a.forget)

end Admission

end RouteFeed
