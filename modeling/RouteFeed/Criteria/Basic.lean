import RouteFeed.Criteria.Criterion
import RouteFeed.Criteria.Interval

/-!
# Collections of criteria

A feed is restricted by any number of criteria, an interval and a sampling period for tables. Of
several criteria of one kind one has to hold, and every kind of which there is a criterion has to be
met. A kind without criteria restricts nothing.

## Main definitions

* `Criteria` — the criteria by kind
* `Criteria.insert` — adds a criterion
* `Criteria.validate` — whether a feed may be started with the criteria
* `Criteria.acceptsChunk`, `Criteria.acceptsElement` — what meets them
* `Criteria.screen` — what they leave of a record
-/

namespace RouteFeed

/-- Criteria by kind. A value stands at most once, in the order in which values were added; blocks
and patterns are listed as often as they were added. -/
structure Criteria where
  /-- The projects. -/
  projects : List String := []
  /-- The collectors. -/
  collectors : List String := []
  /-- The kinds of dumps. -/
  kinds : List DumpKind := []
  /-- The systems of peers. -/
  peers : List UInt32 := []
  /-- The systems that routes start from. -/
  origins : List UInt32 := []
  /-- Blocks, each with the relation asked for. -/
  blocks : List (Block × BlockRelation) := []
  /-- Announcements or withdrawals. -/
  actions : List Action := []
  /-- Patterns of paths. -/
  paths : List Pattern := []
  /-- The interval, if it has been set. -/
  interval? : Option Interval := none
  /-- The least number of seconds between two tables of a collector. -/
  ribPeriod? : Option UInt32 := none

namespace Criteria

/-- Adds a value to a list of distinct values. -/
def insertNew {α : Type} [DecidableEq α] (values : List α) (value : α) : List α :=
  if value ∈ values then values else values ++ [value]

/-- Adds a criterion. -/
def insert (c : Criteria) : Criterion → Criteria
  | .project name => { c with projects := insertNew c.projects name }
  | .collector name => { c with collectors := insertNew c.collectors name }
  | .kind kind => { c with kinds := insertNew c.kinds kind }
  | .peer asn => { c with peers := insertNew c.peers asn }
  | .origin asn => { c with origins := insertNew c.origins asn }
  | .block block relation => { c with blocks := c.blocks ++ [(block, relation)] }
  | .action action => { c with actions := insertNew c.actions action }
  | .path pattern => { c with paths := c.paths ++ [pattern] }

/-- Adds the criterion that a kind and a value write. -/
def add (c : Criteria) (kind value : String) : Except FeedError Criteria :=
  (Criterion.read kind value).map c.insert

/-- Sets the interval. -/
def setInterval (c : Criteria) (interval : Interval) : Criteria :=
  { c with interval? := some interval }

/-- Sets the interval to the last window before `now`. -/
def setRecent (c : Criteria) (window : String) (live : Bool) (now : Seconds) :
    Except FeedError Criteria :=
  (Interval.recent window live now).map c.setInterval

/-- Sets the sampling period; a period of zero means none. -/
def setRibPeriod (c : Criteria) (period : UInt32) : Criteria :=
  { c with ribPeriod? := if period = 0 then none else some period }

/-- A feed needs an interval, and one that does not end before it starts. -/
def validate (c : Criteria) : Except FeedError Unit :=
  match c.interval? with
  | none => .error (.invalidFilter "no time interval specified")
  | some ⟨_, none⟩ => .ok ()
  | some ⟨start, some stop⟩ =>
    if stop < start then
      .error (.invalidFilter ("interval end " ++ Numeral.print stop.toInt ++
        " is before its start " ++ Numeral.print start.toInt))
    else .ok ()

/-- There is an interval and it has no end. -/
def isLive (c : Criteria) : Bool :=
  match c.interval? with
  | some ⟨_, none⟩ => true
  | _ => false

/-- Some criterion is about elements. -/
def hasElementCriteria (c : Criteria) : Bool :=
  !(c.peers.isEmpty && c.origins.isEmpty && c.blocks.isEmpty && c.actions.isEmpty &&
    c.paths.isEmpty)

/-- There is no criterion of a kind, or one of them holds. -/
def someOrNone {α : Type} (values : List α) (holds : α → Bool) : Bool :=
  values.isEmpty || values.any holds

/-- The criteria that choose dumps let a chunk through. -/
def acceptsChunk (c : Criteria) (chunk : Chunk) : Bool :=
  someOrNone c.projects (· = chunk.project) &&
    someOrNone c.collectors (· = chunk.collector) &&
    someOrNone c.kinds (· = chunk.kind) &&
    match c.interval? with
    | none => true
    | some interval => interval.reaches chunk.fileTime chunk.endTime

/-- The criteria that choose elements let an element through. -/
def acceptsElement (c : Criteria) (e : Element) : Bool :=
  someOrNone c.peers (· = e.peer) &&
    someOrNone c.origins (fun asn => e.origins?.any (·.contains asn)) &&
    someOrNone c.blocks (fun b => b.2.holds b.1 e.block) &&
    someOrNone c.actions (· = e.action) &&
    someOrNone c.paths (fun p => e.path?.any fun path => p.matchesText path.print)

/-- The timestamp is in the interval, if there is one. -/
def acceptsTime (c : Criteria) (t : Timestamp) : Bool :=
  match c.interval? with
  | none => true
  | some interval => interval.contains t

/-- What the criteria leave of a record: nothing, if its time is not in the interval or if there are
criteria on elements and no element meets them; else the elements that do. -/
def screen (c : Criteria) (d : Decoded) : Option Decoded :=
  if ¬ c.acceptsTime d.time then none
  else if ¬ c.hasElementCriteria then some d
  else
    let kept := d.elements.filter c.acceptsElement
    if kept.isEmpty then none else some { d with elements := kept }

end Criteria

end RouteFeed
