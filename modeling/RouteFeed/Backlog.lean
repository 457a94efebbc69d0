import RouteFeed.Chunk

/-!
# The backlog

Chunks that have been found wait in the order in which they were found. They are taken in batches:
the first one, and all that follow it directly as long as each starts inside the stretch that the
ones before it in the batch cover. So chunks that overlap are merged together.

## Main definitions

* `Backlog`, `Backlog.push` — the chunks that wait
* `Backlog.batch` — those that belong together
* `Backlog.takeBatch` — takes the next batch
-/

namespace RouteFeed

/-- The chunks that wait, the first to be taken first. -/
abbrev Backlog := List Chunk

namespace Backlog

/-- Puts chunks at the end. -/
def push (b : Backlog) (chunks : List Chunk) : Backlog := b ++ chunks

/-- The second at which the cover of a chunk is over; a chunk covers one second at least. -/
def coverEnd (c : Chunk) : Seconds := c.fileTime.satAdd (c.timeSpan.later 1)

/-- The chunks at the start of the backlog that begin neither before `start` nor at the end of the
cover, which is `stop` and grows with every chunk. -/
def following (start stop : Seconds) : List Chunk → List Chunk
  | [] => []
  | c :: rest =>
    if start ≤ c.fileTime ∧ c.fileTime < stop then
      c :: following start (stop.later (coverEnd c)) rest
    else []

/-- The chunks to be opened together next. -/
def batch : Backlog → List Chunk
  | [] => []
  | c :: rest => c :: following c.fileTime (c.fileTime.later (coverEnd c)) rest

/-- Takes the next batch. -/
def takeBatch (b : Backlog) : List Chunk × Backlog := (b.batch, b.drop b.batch.length)

end Backlog

end RouteFeed
