import RouteFeed.Database.Cell

/-!
# The table of dumps in a database

A database that serves as a catalogue has one table, with a row for each dump. A question selects
the rows that were published after a time and may overlap an interval, in the order of the times of
the dumps and, among equal ones, of publication.

## Main definitions

* `Entry` — a row of the table
* `Schema` — how the columns of the table were declared
* `Database` — a database, with or without that table
* `Database.select` — the rows that a question selects
-/

namespace RouteFeed

/-- A row of the table. -/
structure Entry where
  /-- Where the dump lies. -/
  locator : Cell
  /-- The project of its collector. -/
  project : Cell
  /-- The collector. -/
  collector : Cell
  /-- The kind of the dump. -/
  kind : Cell
  /-- The nominal time. -/
  fileTime : Cell
  /-- The seconds that the dump covers. -/
  timeSpan : Cell
  /-- When the row was published. -/
  published : Cell
deriving DecidableEq, Repr

/-- How the columns of the table were declared. -/
inductive Schema where
  /-- Four texts and three integers. -/
  | typed
  /-- Without any kind of value. -/
  | untyped
deriving DecidableEq, Repr

/-- What the table stores for a row. -/
def Schema.store (schema : Schema) (e : Entry) : Entry :=
  match schema with
  | .untyped => e
  | .typed =>
    { locator := Affinity.text.store e.locator
      project := Affinity.text.store e.project
      collector := Affinity.text.store e.collector
      kind := Affinity.text.store e.kind
      fileTime := Affinity.integer.store e.fileTime
      timeSpan := Affinity.integer.store e.timeSpan
      published := Affinity.integer.store e.published }

/-- A database. -/
structure Database where
  /-- The rows of the table in the order in which they were inserted; none if there is no such table
  or if it lacks a column. -/
  entries? : Option (List Entry)
deriving DecidableEq, Repr

namespace Database

/-- A database that holds rows. -/
def ofEntries (schema : Schema) (entries : List Entry) : Database :=
  ⟨some (entries.map schema.store)⟩

/-- A database without the table. -/
def withoutTable : Database := ⟨none⟩

/-- The row was published after a time, its dump does not start after `stop`, and does not end
before `start`. -/
def selects (after start stop : Int64) (e : Entry) : Bool :=
  e.published.exceeds after && e.fileTime.atMost stop &&
    match e.fileTime.quantity, e.timeSpan.quantity with
    | some time, some span => (time.add? span).any fun sum => (Cell.ofQuantity sum).atLeast start
    | _, _ => false

/-- A row all of whose cells hold what they should. -/
structure TypedEntry where
  /-- Where the dump lies. -/
  locator : String
  /-- The project of its collector. -/
  project : String
  /-- The collector. -/
  collector : String
  /-- The kind of the dump. -/
  kind : String
  /-- The nominal time. -/
  fileTime : Int64
  /-- The seconds that the dump covers. -/
  timeSpan : Int64
  /-- When the row was published. -/
  published : Int64
deriving DecidableEq, Repr

/-- The row, if all of its cells hold what they should. -/
def typed? (e : Entry) : Option TypedEntry := do
  some
    { locator := ← e.locator.text?
      project := ← e.project.text?
      collector := ← e.collector.text?
      kind := ← e.kind.text?
      fileTime := ← e.fileTime.integer?
      timeSpan := ← e.timeSpan.integer?
      published := ← e.published.integer? }

/-- The order of rows: by the time of the dump, then by the time of publication. -/
def TypedEntry.precedes (a b : TypedEntry) : Bool :=
  ((compare a.fileTime.toInt b.fileTime.toInt).then
    (compare a.published.toInt b.published.toInt)).isLE

/-- The rows that a question selects, in order; none if there is no table or if a row that is
selected holds something else than it should. -/
def select (db : Database) (after start stop : Int64) : Option (List TypedEntry) := do
  let entries ← db.entries?
  let typed ← (entries.filter (selects after start stop)).mapM typed?
  some (typed.mergeSort TypedEntry.precedes)

end Database

end RouteFeed
