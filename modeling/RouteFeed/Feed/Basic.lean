import RouteFeed.Backlog
import RouteFeed.Discovery.Basic
import RouteFeed.Merge.Basic

/-!
# Feeds

A feed delivers the records of all dumps that meet its criteria, in the order of their times. It is
set up, started, read and stopped. Once it has been started its set-up does not change any more:
attempts to change it are ignored.

Reading moves on in *steps*. As long as dumps are open, or failures wait, a step delivers from them.
When all are read through, the next batch is taken from the backlog and opened, and only when the
backlog is empty, too, the catalogue is asked. So all records of a batch come before those of the
next.

A feed is told here as it goes on in a program that does not check its sums. One that does stops as
soon as `Discovery.hasStopped` holds of its discovery, and otherwise goes on in the same way.

## Main definitions

* `Feed` — the parts of a feed
* `Feed.addCriterion`, …, `Feed.setBackoff` — the set-up
* `Feed.start`, `Feed.stop` — the life of a feed
* `Feed.step`, `Feed.next` — one step, and the steps up to the next delivery
-/

namespace RouteFeed

/-- A feed. -/
structure Feed (κ : Type) where
  /-- What the feed is restricted to. -/
  criteria : Criteria := {}
  /-- Where chunks are found. -/
  discovery : Discovery κ
  /-- The chunks that have been found and not been opened. -/
  backlog : Backlog := []
  /-- The dumps that are open. -/
  merge : Merge
  /-- Where the feed is in its life. -/
  phase : Phase := .allocated
  /-- Whether the end has been reached. -/
  exhausted : Bool := false

/-- What a step leads to. -/
inductive Step where
  /-- A record, a failure, or the end of the feed. -/
  | delivered (result : Except FeedError (Option Record))
  /-- A further step, perhaps after a wait. -/
  | again (delay? : Option Duration)

namespace Feed

variable {κ : Type}

/-- A feed of the catalogues of a list, whose chunks are opened in a given way. -/
def ofList (table : List κ) (opener : Opener) : Feed κ :=
  { discovery := .ofList table, merge := { opener := opener } }

/-- The feed waits for chunks when there are none. -/
def isLive (f : Feed κ) : Bool := f.discovery.live

/-! ## Set-up -/

/-- A change of the set-up; it is ignored once the feed has been started. -/
def configure (f : Feed κ) (change : Feed κ → Except FeedError (Feed κ)) :
    Except FeedError (Feed κ) :=
  if f.phase = .allocated then change f else .ok f

/-- A change of the set-up that always succeeds. -/
def adjust (f : Feed κ) (change : Feed κ → Feed κ) : Feed κ :=
  if f.phase = .allocated then change f else f

/-- Waits for chunks if the condition holds. -/
def setLiveIf (f : Feed κ) (condition : Bool) : Feed κ :=
  if condition then { f with discovery := f.discovery.setLive } else f

/-- Adds the criterion that a kind and a value write. -/
def addCriterion (f : Feed κ) (kind value : String) : Except FeedError (Feed κ) :=
  f.configure fun f => (f.criteria.add kind value).map fun c => { f with criteria := c }

/-- Sets the interval; one without an end makes the feed live. -/
def setInterval (f : Feed κ) (interval : Interval) : Feed κ :=
  f.adjust fun f =>
    { f with criteria := f.criteria.setInterval interval }.setLiveIf interval.stop?.isNone

/-- Sets the interval to the last window before `now`. -/
def setRecent (f : Feed κ) (window : String) (live : Bool) (now : Seconds) :
    Except FeedError (Feed κ) :=
  f.configure fun f =>
    (f.criteria.setRecent window live now).map fun c => { f with criteria := c }.setLiveIf live

/-- Sets the sampling period of tables. -/
def setRibPeriod (f : Feed κ) (period : UInt32) : Feed κ :=
  f.adjust fun f => { f with criteria := f.criteria.setRibPeriod period }

/-- Makes the feed live. -/
def setLive (f : Feed κ) : Feed κ := f.adjust fun f => f.setLiveIf true

/-- Sets the policy for delays. -/
def setBackoff (f : Feed κ) (policy : BackoffPolicy) : Feed κ :=
  f.adjust fun f => { f with discovery := f.discovery.setBackoff policy }

/-- Replaces the registry by a changed one. -/
def withRegistry (f : Feed κ) (registry : Registry κ) : Feed κ :=
  { f with discovery := { f.discovery with registry := registry } }

/-- Makes another catalogue active. -/
def select (f : Feed κ) (number : Nat) : Except FeedError (Feed κ) :=
  f.configure fun f => (f.discovery.registry.select number).map f.withRegistry

variable [Catalogue κ]

/-- Gives a value to a setting of a catalogue. -/
def set (f : Feed κ) (number : Nat) (name value : String) : Except FeedError (Feed κ) :=
  f.configure fun f => (f.discovery.registry.set number name value).map f.withRegistry

/-- Adds a catalogue; unlike other changes this one fails once the feed has been started. -/
def register (f : Feed κ) (k : κ) : Except FeedError (Nat × Feed κ) :=
  if f.phase = .allocated then
    (f.discovery.registry.register k).map fun (number, registry) =>
      (number, f.withRegistry registry)
  else .error (.wrongPhase "register data interface" f.phase)

/-- The settings of a catalogue. -/
def settings (f : Feed κ) (number : Nat) : Except FeedError Settings :=
  (f.discovery.registry.get number).map Catalogue.settings

/-- The setting of a name of a catalogue. -/
def setting? (f : Feed κ) (number : Nat) (name : String) : Option Setting :=
  match f.settings number with
  | .ok settings => settings.find? fun s => s.name = name
  | .error _ => none

/-! ## Life -/

/-- Checks the criteria and starts the active catalogue. A feed that cannot be started may be set up
further and started again. -/
def start (f : Feed κ) : Except FeedError Unit × Feed κ :=
  if f.phase ≠ .allocated then (.error (.wrongPhase "start" f.phase), f)
  else
    match f.criteria.validate with
    | .error e => (.error e, f)
    | .ok () =>
      let f := f.setLiveIf f.criteria.isLive
      match f.discovery.start with
      | (.ok (), discovery) => (.ok (), { f with discovery := discovery, phase := .running })
      | (.error e, discovery) => (.error e, { f with discovery := discovery })

omit [Catalogue κ] in
/-- Closes all dumps and forgets the backlog, for good. -/
def stop (f : Feed κ) : Feed κ :=
  if f.phase = .stopped then f
  else
    { f with
      merge := f.merge.clear
      backlog := []
      discovery := f.discovery.close
      phase := .stopped }

/-! ## Reading -/

omit [Catalogue κ] in
/-- Opens the next batch of the backlog. -/
def openBatch (f : Feed κ) : Feed κ :=
  let (batch, backlog) := f.backlog.takeBatch
  { f with backlog := backlog, merge := f.merge.add f.criteria batch }

/-- Asks the catalogue. -/
def discover (f : Feed κ) : Step × Feed κ :=
  match f.discovery.round f.criteria with
  | (.waiting delay, discovery) => (.again (some delay), { f with discovery := discovery })
  | (.settled (.error e), discovery) =>
    (.delivered (.error e), { f with discovery := discovery })
  | (.settled (.ok []), discovery) =>
    (.delivered (.ok none), { f with discovery := discovery, exhausted := true })
  | (.settled (.ok chunks), discovery) =>
    (.again none,
      { f with discovery := discovery, backlog := f.backlog.push chunks }.openBatch)

/-- Moves one step on. -/
def step (f : Feed κ) : Step × Feed κ :=
  if f.phase ≠ .running then (.delivered (.error (.wrongPhase "get next record" f.phase)), f)
  else if f.exhausted then (.delivered (.ok none), f)
  else if ¬ f.merge.isEmpty then
    let (result, merge) := f.merge.next f.criteria
    (.delivered result, { f with merge := merge })
  else if f.backlog.isEmpty then f.discover
  else (.again none, f.openBatch)

/-- Moves on to the next record, failure or end, in at most so many steps; none if it has not been
reached by then. -/
def next : Nat → Feed κ → Option (Except FeedError (Option Record)) × Feed κ
  | 0, f => (none, f)
  | steps + 1, f =>
    match f.step with
    | (.delivered result, f) => (some result, f)
    | (.again _, f) => next steps f

end Feed

end RouteFeed
