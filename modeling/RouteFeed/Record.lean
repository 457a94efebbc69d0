import RouteFeed.Chunk
import RouteFeed.Element

/-!
# Records

A dump is a series of records, each with a time and its elements. The reader of a feed gets a record
together with the description of the dump that it comes from and its place in it.

## Main definitions

* `Decoded` — a record as the dump holds it
* `Position` — the place of a record among those that a dump delivers
* `Record` — a record as a feed delivers it
-/

namespace RouteFeed

/-- A record as the dump holds it. -/
structure Decoded where
  /-- When it was written. -/
  time : Timestamp
  /-- What it says. -/
  elements : List Element
deriving DecidableEq

/-- The place of a record among those that a dump delivers. -/
inductive Position where
  /-- The first of several. -/
  | first
  /-- Neither the first nor the last. -/
  | middle
  /-- The last, or the only one. -/
  | last
deriving DecidableEq, Repr

/-- The name of a place. -/
def Position.name : Position → String
  | first => "Start"
  | middle => "Middle"
  | last => "End"

/-- A record as a feed delivers it. -/
structure Record where
  /-- The project of the dump. -/
  project : String
  /-- The collector of the dump. -/
  collector : String
  /-- The kind of the dump. -/
  kind : DumpKind
  /-- The nominal time of the dump. -/
  dumpTime : Seconds
  /-- When the record was written. -/
  time : Timestamp
  /-- The place of the record in the dump. -/
  position : Position
  /-- Where the dump lies. -/
  locator : String
  /-- The elements that the filters let through. -/
  elements : List Element
deriving DecidableEq

/-- A record of a dump with the description of that dump. -/
def Decoded.ofChunk (d : Decoded) (chunk : Chunk) (position : Position) : Record :=
  { project := chunk.project
    collector := chunk.collector
    kind := chunk.kind
    dumpTime := chunk.fileTime
    time := d.time
    position := position
    locator := chunk.locator
    elements := d.elements }

end RouteFeed
