import RouteFeed.Calendar
import RouteFeed.CommandLine.Arguments
import RouteFeed.Feed.Basic

/-!
# Setting up a feed from the command line

The arguments choose a catalogue, give values to its settings, and name criteria and an interval.
Criteria reach the feed as texts, in the same form in which they may be added one by one.

## Main definitions

* `ConfigureError` — why a feed cannot be set up
* `Arguments.criteria` — the kinds and values of all criteria
* `Arguments.configure` — sets up a feed
-/

namespace RouteFeed

/-- Why a feed cannot be set up as the arguments say. -/
inductive ConfigureError where
  /-- No catalogue has this name; these are the names. -/
  | unknownCatalogue (name : String) (known : List String)
  /-- There is no catalogue at all. -/
  | noCatalogue
  /-- A setting without an equals sign. -/
  | malformedSetting (text : String)
  /-- An interval is given in two ways. -/
  | twoIntervals
  /-- No interval is given. -/
  | noInterval
  /-- A time that cannot be read. -/
  | unreadableTime (text : String)
  /-- The feed refuses. -/
  | refused (error : FeedError)
deriving DecidableEq, Repr

/-- The sentence that describes the error. -/
def ConfigureError.message : ConfigureError → String
  | unknownCatalogue name known =>
    "unknown data interface " ++ name ++ ", available: " ++ ", ".intercalate known
  | noCatalogue => "no data interface available"
  | malformedSetting text => "data interface option " ++ text ++ " is not NAME=VALUE"
  | twoIntervals => "--recent and --start-ts cannot be used together"
  | noInterval => "one of --start-ts or --recent is required"
  | unreadableTime text =>
    "Input time must be either Unix timestamp or time string compliant with RFC3339: " ++ text
  | refused e => e.message

/-- The result of a feed, in the words of the command line. -/
def orRefused {α : Type} (result : Except FeedError α) : Except ConfigureError α :=
  result.mapError .refused

/-- The parts of a setting before and behind the first equals sign, without blanks around them. -/
def splitSetting (text : String) : Except ConfigureError (String × String) :=
  let cs := text.toList
  let name := cs.takeWhile (· ≠ '=')
  match cs.drop name.length with
  | _ :: value => .ok (trim (String.ofList name), trim (String.ofList value))
  | [] => .error (.malformedSetting text)

/-- The time that a text writes. -/
def readTime (text : String) : Except ConfigureError Seconds :=
  match Calendar.seconds? text with
  | some t => .ok t
  | none => .error (.unreadableTime text)

namespace Arguments

/-- The kinds and values of all criteria, in the order in which they are added. -/
def criteria (a : Arguments) : List (String × String) :=
  a.projects.map ("project", ·) ++ a.collectors.map ("collector", ·) ++
    a.kinds.map (fun kind => ("type", kind.plural)) ++
    a.peers.map (fun asn => ("peer_asn", printAsn asn)) ++
    a.origins.map (fun asn => ("origin_asn", printAsn asn)) ++
    a.blocks.map (fun block => (a.relation.kindName, block.print)) ++
    a.action?.toList.map ("elem_type", ·) ++ a.path?.toList.map ("as_path", ·)

variable {κ : Type}

/-- Sets the interval. -/
def configureInterval (a : Arguments) (now : Seconds) (f : Feed κ) :
    Except ConfigureError (Feed κ) := do
  match a.recent?, a.start? with
  | some _, some _ => .error .twoIntervals
  | some window, none => orRefused (f.setRecent window a.live now)
  | none, some start =>
    let start ← readTime start
    let stop? ← match a.stop? with
      | some stop => (readTime stop).map some
      | none => .ok none
    .ok (f.setInterval ⟨start, stop?⟩)
  | none, none => .error .noInterval

variable [Catalogue κ]

/-- Chooses the catalogue. -/
def chooseCatalogue (a : Arguments) (f : Feed κ) : Except ConfigureError (Feed κ) :=
  match a.catalogue? with
  | none => .ok f
  | some name =>
    match f.discovery.registry.find? name with
    | some number => orRefused (f.select number)
    | none => .error (.unknownCatalogue name (f.discovery.registry.table.map Catalogue.name))

/-- Gives a value to a setting of a catalogue. -/
def applySetting (number : Nat) (f : Feed κ) (text : String) : Except ConfigureError (Feed κ) := do
  let (name, value) ← splitSetting text
  orRefused (f.set number name value)

/-- Sets up a feed. -/
def configure (a : Arguments) (now : Seconds) (f : Feed κ) : Except ConfigureError (Feed κ) := do
  let f ← a.chooseCatalogue f
  match f.discovery.registry.active? with
  | none => .error .noCatalogue
  | some number =>
    let f ← a.settings.foldlM (applySetting number) f
    let f ← a.criteria.foldlM (fun f (kind, value) => orRefused (f.addCriterion kind value)) f
    let f ← a.configureInterval now f
    .ok (match a.ribPeriod? with
      | some period => f.setRibPeriod period
      | none => f)

end Arguments

end RouteFeed
