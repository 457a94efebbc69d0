import RouteFeed.Catalogue.Row
import RouteFeed.Database.Location

/-!
# Databases of chunks

A catalogue may be a database. It is opened when the catalogue is started, and questions go to the
database that was opened then. The database itself selects the rows that were published after the
cursor and may overlap the interval; of these, those of a known kind count.

## Main definitions

* `DatabaseFile` — the catalogue
* `rowOfEntry?` — the row that an entry of a known kind describes
* `DatabaseFile.answer` — the answer of an open database
-/

namespace RouteFeed

/-- The row that an entry of a known kind describes. -/
def rowOfEntry? (e : Database.TypedEntry) : Option Row :=
  (DumpKind.read? e.kind).map fun kind =>
    { chunk :=
        { project := e.project
          collector := e.collector
          kind := kind
          locator := e.locator
          fileTime := e.fileTime
          timeSpan := e.timeSpan }
      published := e.published }

/-- A catalogue that is a database. -/
structure DatabaseFile where
  /-- The files that exist at present. -/
  archive : Archive
  /-- The name of the file. -/
  settings : Settings := [⟨"db-file", "sqlite database file", none, none, true⟩]
  /-- The database that is open, if one is. -/
  open? : Option Database := none

namespace DatabaseFile

/-- The name of the catalogue. -/
def name : String := "sqlite"

/-- Opens the database that the setting names. -/
def connect (d : DatabaseFile) : Except FeedError Database := do
  let name ← d.settings.require name "db-file"
  match (Location.ofName? d.archive name).bind (Location.database? d.archive) with
  | some db => .ok db
  | none => .error (.misconfigured ("cannot open " ++ name))

/-- The answer of an open database. -/
def answerFrom (db : Database) (criteria : Criteria) (cursor : Cursor) :
    Except FeedError Answer := do
  let after? ← cursor.time
  let start := criteria.interval?.elim Seconds.least Interval.start
  let stop := (criteria.interval?.bind Interval.stop?).getD Seconds.greatest
  match db.select (after?.getD Seconds.least) start stop with
  | none => .error (.unavailable "sqlite error")
  | some entries => selectPublished criteria cursor (entries.filterMap rowOfEntry?)

/-- The answer to a question. -/
def answer (d : DatabaseFile) (criteria : Criteria) (cursor : Cursor) : Except FeedError Answer :=
  match d.open? with
  | none => .error (.misconfigured "sqlite data interface not started")
  | some db => answerFrom db criteria cursor

instance : Catalogue DatabaseFile where
  name _ := name
  description _ := "Retrieve metadata information from a sqlite database"
  settings := settings
  set d option value :=
    (d.settings.set name option value).map fun settings => { d with settings := settings }
  start d :=
    match d.connect with
    | .ok db => (.ok (), { d with open? := some db })
    | .error e => (.error e, d)
  query d criteria cursor := (d.answer criteria cursor, d)

end DatabaseFile

end RouteFeed
