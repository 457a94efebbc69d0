import RouteFeed.Seconds
import RouteFeed.Text.Blank

/-!
# Chunks

A chunk is one dump file as a catalogue describes it: where it lies, which collector of which
project wrote it, which kind of dump it is, and which stretch of time it covers.

## Main definitions

* `DumpKind`, `DumpKind.read?` — tables and updates
* `Chunk` — the description of a dump
* `Chunk.endTime` — the last second that it covers
* `Chunk.key` — what tells one chunk from another
* `Chunk.precedes`, `sortChunks` — the order in which a catalogue lists chunks
-/

namespace RouteFeed

/-- The two kinds of dumps. -/
inductive DumpKind where
  /-- A snapshot of a whole table. -/
  | rib
  /-- What changed during a stretch of time. -/
  | update
deriving DecidableEq, Repr

namespace DumpKind

/-- The name of one dump of a kind. -/
def name : DumpKind → String
  | rib => "rib"
  | update => "update"

/-- The name of the dumps of a kind. -/
def plural : DumpKind → String
  | rib => "ribs"
  | update => "updates"

/-- Tables come before updates. -/
def rank : DumpKind → Nat
  | rib => 0
  | update => 1

/-- The kind that a text names, in small or capital letters. -/
def read? (text : String) : Option DumpKind :=
  let word := lowerLatin text
  if word = rib.name ∨ word = rib.plural then some rib
  else if word = update.name ∨ word = update.plural then some update
  else none

end DumpKind

/-- One dump file, as a catalogue describes it. -/
structure Chunk where
  /-- The project that the collector belongs to. -/
  project : String
  /-- The collector that wrote the dump. -/
  collector : String
  /-- What the dump holds. -/
  kind : DumpKind
  /-- Where the dump lies. -/
  locator : String
  /-- The nominal time of the dump. -/
  fileTime : Seconds
  /-- The seconds that the dump covers from there on. -/
  timeSpan : Seconds
deriving DecidableEq, Repr

/-- What tells one chunk from another. -/
structure ChunkKey where
  /-- The collector that wrote the dump. -/
  collector : String
  /-- Where the dump lies. -/
  locator : String
  /-- The nominal time of the dump. -/
  fileTime : Seconds
deriving DecidableEq, Repr

namespace Chunk

/-- What tells this chunk from others. -/
def key (c : Chunk) : ChunkKey := ⟨c.collector, c.locator, c.fileTime⟩

/-- The last second that the chunk covers. -/
def endTime (c : Chunk) : Seconds := c.fileTime.satAdd c.timeSpan

/-- The order of catalogues: by time, tables before updates, by collector, by place. -/
def order (c d : Chunk) : Ordering :=
  (compare c.fileTime.toInt d.fileTime.toInt).then <|
    (compare c.kind.rank d.kind.rank).then <|
      (compare c.collector d.collector).then (compare c.locator d.locator)

/-- `c` may stand before `d` in a catalogue. -/
def precedes (c d : Chunk) : Bool := (order c d).isLE

end Chunk

/-- The chunks in the order of catalogues; equal ones stay in their order. -/
def sortChunks (chunks : List Chunk) : List Chunk := chunks.mergeSort Chunk.precedes

end RouteFeed
