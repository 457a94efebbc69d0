import RouteFeed.Catalogue.Broker
import RouteFeed.Catalogue.DatabaseFile
import RouteFeed.Catalogue.Replay
import RouteFeed.Catalogue.SingleFile
import RouteFeed.Catalogue.Table

/-!
# All kinds of catalogues

A feed may be set up with catalogues of different kinds side by side. `Source` is any of them; what
it can do is what its catalogue can do.

## Main definitions

* `Source` — a catalogue of any kind
* `Source.builtIn` — the four kinds that every feed knows
* `Source.shareQuestions` — lets replayed catalogues of one name count their questions together
-/

namespace RouteFeed

/-- A catalogue of any kind. -/
inductive Source where
  /-- A service on the network. -/
  | broker (b : Broker)
  /-- A database. -/
  | database (d : DatabaseFile)
  /-- A table of separated values. -/
  | table (t : TableFile)
  /-- One or two files. -/
  | singleFile (s : SingleFile)
  /-- A script. -/
  | replay (r : Replay)

namespace Source

/-- The four kinds that every feed knows, in their order. -/
def builtIn (archive : Archive) (service : BrokerService) (now : Seconds) : List Source :=
  [broker { service := service, now := now },
   database { archive := archive },
   table { archive := archive },
   singleFile {}]

/-- The source with other files. -/
def withArchive (archive : Archive) : Source → Source
  | database d => database { d with archive := archive }
  | table t => table { t with archive := archive }
  | source => source

/-- The longest record of questions of the replayed catalogues of a name. -/
def questionsOf (table : List Source) (name : String) : List Cursor :=
  table.foldl (fun longest source =>
    match source with
    | replay r => if r.name = name ∧ longest.length < r.asked.length then r.asked else longest
    | _ => longest) []

/-- Replayed catalogues of one name keep one record of questions. -/
def shareQuestions (table : List Source) : List Source :=
  table.map fun source =>
    match source with
    | replay r => replay { r with asked := questionsOf table r.name }
    | _ => source

instance : Catalogue Source where
  name
    | broker c => Catalogue.name c
    | database c => Catalogue.name c
    | table c => Catalogue.name c
    | singleFile c => Catalogue.name c
    | replay c => Catalogue.name c
  description
    | broker c => Catalogue.description c
    | database c => Catalogue.description c
    | table c => Catalogue.description c
    | singleFile c => Catalogue.description c
    | replay c => Catalogue.description c
  settings
    | broker c => Catalogue.settings c
    | database c => Catalogue.settings c
    | table c => Catalogue.settings c
    | singleFile c => Catalogue.settings c
    | replay c => Catalogue.settings c
  set source option value :=
    match source with
    | broker c => (Catalogue.set c option value).map broker
    | database c => (Catalogue.set c option value).map database
    | table c => (Catalogue.set c option value).map table
    | singleFile c => (Catalogue.set c option value).map singleFile
    | replay c => (Catalogue.set c option value).map replay
  validate
    | broker c => Catalogue.validate c
    | database c => Catalogue.validate c
    | table c => Catalogue.validate c
    | singleFile c => Catalogue.validate c
    | replay c => Catalogue.validate c
  start
    | broker c => (Catalogue.start c).map id broker
    | database c => (Catalogue.start c).map id database
    | table c => (Catalogue.start c).map id table
    | singleFile c => (Catalogue.start c).map id singleFile
    | replay c => (Catalogue.start c).map id replay
  query source criteria cursor :=
    match source with
    | broker c => (Catalogue.query c criteria cursor).map id broker
    | database c => (Catalogue.query c criteria cursor).map id database
    | table c => (Catalogue.query c criteria cursor).map id table
    | singleFile c => (Catalogue.query c criteria cursor).map id singleFile
    | replay c => (Catalogue.query c criteria cursor).map id replay

end Source

end RouteFeed
