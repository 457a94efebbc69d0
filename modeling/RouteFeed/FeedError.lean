/-!
# Failures of a feed

Everything that can go wrong in a feed, by cause, and the sentence that a reader sees. Two classes
of failure matter to the machinery itself:

* a *transient* failure may go away when the same catalogue is asked again later;
* a *soft* failure costs one dump only, and the feed can be read further.

## Main definitions

* `Phase` — the life of a feed
* `FeedError`, `FeedError.message` — the causes and their sentences
* `FeedError.isTransient`, `FeedError.isSoft` — the two classes
-/

namespace RouteFeed

/-- The life of a feed: it is configured, then read, then stopped. -/
inductive Phase where
  /-- Being configured; not started yet. -/
  | allocated
  /-- Started and being read. -/
  | running
  /-- Stopped for good. -/
  | stopped
deriving DecidableEq, Repr

/-- The name of a phase. -/
def Phase.name : Phase → String
  | allocated => "Allocated"
  | running => "Running"
  | stopped => "Stopped"

/-- The causes of failure. -/
inductive FeedError where
  /-- The operation is not allowed in the phase that the feed is in. -/
  | wrongPhase (operation : String) (phase : Phase)
  /-- A filter cannot be read, or the filters as a whole make no sense. -/
  | invalidFilter (detail : String)
  /-- No catalogue has this number. -/
  | unknownCatalogue (number : String)
  /-- The catalogue has no such option. -/
  | unknownOption (catalogue option : String)
  /-- The catalogue needs a value for this option. -/
  | missingOption (catalogue option : String)
  /-- The catalogue cannot work as it is set up. -/
  | misconfigured (detail : String)
  /-- The catalogue cannot be reached or read at the moment. -/
  | unavailable (detail : String)
  /-- A dump cannot be opened. -/
  | unopenable (locator reason : String)
  /-- A dump turned out to be damaged while it was decoded. -/
  | corrupted (locator reason : String)
deriving DecidableEq, Repr

namespace FeedError

/-- The sentence that describes a failure. -/
def message : FeedError → String
  | wrongPhase operation phase => "cannot " ++ operation ++ " while stream is " ++ phase.name
  | invalidFilter detail => "invalid filter: " ++ detail
  | unknownCatalogue number => "unknown data interface " ++ number
  | unknownOption catalogue option =>
    "data interface " ++ catalogue ++ " has no option named " ++ option
  | missingOption catalogue option =>
    "data interface " ++ catalogue ++ " requires option " ++ option
  | misconfigured detail => "data interface misconfigured: " ++ detail
  | unavailable detail => "data interface unavailable: " ++ detail
  | unopenable locator reason => "cannot open chunk " ++ locator ++ ": " ++ reason
  | corrupted locator reason => "corrupted chunk " ++ locator ++ ": " ++ reason

/-- The failure may go away when the same question is asked again later. -/
def isTransient : FeedError → Bool
  | unavailable _ => true
  | _ => false

/-- Only one dump is lost; the feed can be read further. -/
def isSoft : FeedError → Bool
  | unopenable _ _ | corrupted _ _ => true
  | _ => false

end FeedError

end RouteFeed
