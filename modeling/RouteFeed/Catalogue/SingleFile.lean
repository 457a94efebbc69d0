import RouteFeed.Catalogue.Basic

/-!
# Single files

The simplest catalogue has one table, one file of updates, or one of each. It lists them once,
tables first, with the start of the interval as their time, and does not ask whether they meet the
criteria.

## Main definitions

* `SingleFile` — the catalogue
* `SingleFile.files` — the files that have been set, as chunks
-/

namespace RouteFeed

/-- One table, one file of updates, or one of each. -/
structure SingleFile where
  /-- The names of the two files. -/
  settings : Settings :=
    [⟨"rib-file", "rib mrt file to read", none, none, false⟩,
     ⟨"upd-file", "updates mrt file to read", none, none, false⟩]

namespace SingleFile

/-- The name of the catalogue, of its project and of its collector. -/
def name : String := "singlefile"

/-- The cursor behind all files. -/
def delivered : Cursor := .ofText "delivered"

/-- The setting that holds the name of the file of a kind. -/
def settingOf : DumpKind → String
  | .rib => "rib-file"
  | .update => "upd-file"

/-- The file of a kind, as a chunk of a given time. -/
def chunk? (s : SingleFile) (time : Seconds) (kind : DumpKind) : Option Chunk :=
  (s.settings.value? (settingOf kind)).map fun locator =>
    ⟨name, name, kind, locator, time, 0⟩

/-- The files that have been set, as chunks of a given time. -/
def files (s : SingleFile) (time : Seconds) : List Chunk :=
  [DumpKind.rib, .update].filterMap (s.chunk? time)

/-- At least one of the two files has to be set. -/
def validate (s : SingleFile) : Except FeedError Unit :=
  if (s.settings.value? "rib-file").isNone ∧ (s.settings.value? "upd-file").isNone then
    .error (.missingOption name "rib-file or upd-file")
  else .ok ()

/-- All files at the start, and none after that. -/
def answer (s : SingleFile) (criteria : Criteria) (cursor : Cursor) : Answer :=
  if cursor.isStart then
    ⟨s.files (criteria.interval?.elim 0 Interval.start), delivered⟩
  else ⟨[], cursor⟩

instance : Catalogue SingleFile where
  name _ := name
  description _ := "Read a single mrt data file (a RIB and/or an update)"
  settings := settings
  set s option value := (s.settings.set name option value).map fun settings => ⟨settings⟩
  validate := validate
  query s criteria cursor := (.ok (s.answer criteria cursor), s)

end SingleFile

end RouteFeed
