import RouteFeed.Catalogue.Row

/-!
# Brokers

A broker is a service on the network that lists dumps by time. Each question is a request for a
window of time, which goes from the latest time that has been seen to the end of the interval, or to
the present if the interval has no end. The service may know more dumps in that window than meet the
criteria.

## Main definitions

* `BrokerRequest`, `BrokerItem`, `BrokerService` — what a broker is asked and what it answers
* `Broker.window`, `Broker.request` — the request for a question
* `Broker.chunk?` — the chunk that an item describes
* `Broker` — the catalogue
-/

namespace RouteFeed

/-- What a broker is asked. -/
structure BrokerRequest where
  /-- The address of the service. -/
  url : String
  /-- The first second of the window. -/
  start : Seconds
  /-- The last second of the window. -/
  stop : Seconds
  /-- The only collector that counts, if there is just one. -/
  collector? : Option String
  /-- The only kind of dump that counts, if there is just one. -/
  kind? : Option DumpKind
deriving DecidableEq, Repr

/-- A dump that a broker lists. -/
structure BrokerItem where
  /-- The collector. -/
  collector : String
  /-- The name of the kind of dump. -/
  kind : String
  /-- Where the dump lies. -/
  url : String
  /-- The first second that it covers. -/
  start : Seconds
  /-- The second at which its cover is over. -/
  stop : Seconds
deriving DecidableEq, Repr

/-- A service together with the client that asks it: the items that are answered to a request, or no
answer, whatever the reason. -/
abbrev BrokerService := BrokerRequest → Option (List BrokerItem)

/-- A catalogue that is a broker. -/
structure Broker where
  /-- The service at present. -/
  service : BrokerService
  /-- The present time. -/
  now : Seconds
  /-- The address of the service. -/
  settings : Settings :=
    [⟨"url", "broker API endpoint", some "https://api.bgpkit.com/v3/broker", none, true⟩]

namespace Broker

/-- The name of the catalogue. -/
def name : String := "broker"

/-- The project of a collector: the collectors of one project have names with a common start. -/
def projectOf (collector : String) : String :=
  if collector.startsWith "rrc" then "ris" else "routeviews"

/-- The kind of dump that a broker names. -/
def kind? (word : String) : Option DumpKind :=
  [DumpKind.rib, .update].find? fun kind => word = kind.name ∨ word = kind.plural

/-- The chunk that an item of a known kind describes. -/
def chunk? (item : BrokerItem) : Option Chunk :=
  (kind? item.kind).map fun kind =>
    { project := projectOf item.collector
      collector := item.collector
      kind := kind
      locator := item.url
      fileTime := item.start
      timeSpan := (item.stop.satSub item.start).later 0 }

/-- The only member of a list. -/
def only? {α : Type} : List α → Option α
  | [a] => some a
  | _ => none

/-- The window of time of a question. -/
def window (b : Broker) (interval : Interval) (after? : Option Seconds) : Seconds × Seconds :=
  (after?.elim interval.start (·.later interval.start), interval.stop?.getD b.now)

/-- The request for a window of time. -/
def request (b : Broker) (criteria : Criteria) (start stop : Seconds) : BrokerRequest :=
  { url := (b.settings.value? "url").getD ""
    start := start
    stop := stop
    collector? := only? criteria.collectors
    kind? := only? criteria.kinds }

/-- The items that the service answers. -/
def items (b : Broker) (r : BrokerRequest) : Except FeedError (List BrokerItem) :=
  match b.service r with
  | some items => .ok items
  | none => .error (.unavailable "broker query failed")

/-- The answer to a question. -/
def answer (b : Broker) (criteria : Criteria) (cursor : Cursor) : Except FeedError Answer := do
  match criteria.interval? with
  | none => .error (.invalidFilter "broker queries need a time interval")
  | some interval =>
    let after? ← cursor.time
    let (start, stop) := b.window interval after?
    if stop < start then .ok ⟨[], cursor⟩
    else
      let chunks := (← b.items (b.request criteria start stop)).filterMap chunk?
      let latest? := latestOf after? (chunks.map Chunk.fileTime)
      .ok ⟨sortChunks (chunks.filter criteria.acceptsChunk), cursor.advance latest?⟩

instance : Catalogue Broker where
  name _ := name
  description _ := "Retrieve metadata information from the BGPKIT Broker API"
  settings := settings
  set b option value :=
    (b.settings.set name option value).map fun settings => { b with settings := settings }
  query b criteria cursor := (b.answer criteria cursor, b)

end Broker

end RouteFeed
