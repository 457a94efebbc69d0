import RouteFeed.Archive
import RouteFeed.Catalogue.Row
import RouteFeed.Table.Separated

/-!
# Tables of chunks

A catalogue may be a table of separated values. Its header names the columns, in any order and among
others; every further line describes a chunk. A line that does not is left out: one with another
number of fields than the header, without the name of a dump, of an unknown kind, or with something
else than an integer where one is needed. The table is read anew for every question.

## Main definitions

* `Column`, `Columns.find` — the columns that are needed and their places
* `Line.row?` — the row that a line describes
* `rowsOfTable` — the rows that a header and lines describe
* `TableFile` — the catalogue
-/

namespace RouteFeed

/-- The columns of a table of chunks. -/
inductive Column where
  /-- Where the dump lies. -/
  | locator
  /-- The project of its collector. -/
  | project
  /-- The collector. -/
  | collector
  /-- The kind of the dump. -/
  | kind
  /-- The nominal time. -/
  | fileTime
  /-- The seconds that the dump covers. -/
  | timeSpan
  /-- When the row was published. -/
  | published
deriving DecidableEq, Repr

/-- The name of a column in a header. -/
def Column.name : Column → String
  | locator => "path"
  | project => "project"
  | collector => "collector"
  | kind => "type"
  | fileTime => "file_time"
  | timeSpan => "time_span"
  | published => "ts"

/-- All columns, in the order in which they are looked for. -/
def Column.all : List Column :=
  [locator, project, collector, kind, fileTime, timeSpan, published]

/-- The fields of a header or of a line. -/
abbrev Line := List String

/-- The columns that a header does not name. -/
def missingColumns (header : Line) : List Column :=
  Column.all.filter fun column => ¬ header.contains column.name

/-- The field of a line that stands under the first header of a name; empty if there is none. -/
def Line.field (header line : Line) (column : Column) : String :=
  line.getD (header.idxOf column.name) ""

/-- The row that a line describes. -/
def Line.row? (header line : Line) : Option Row := do
  if line.length ≠ header.length then none
  let locator := field header line .locator
  if locator.isEmpty then none
  let kind ← DumpKind.read? (field header line .kind)
  let fileTime ← Numeral.seconds? (field header line .fileTime)
  let timeSpan ← Numeral.seconds? (field header line .timeSpan)
  let published ← Numeral.seconds? (field header line .published)
  some
    { chunk :=
        { project := field header line .project
          collector := field header line .collector
          kind := kind
          locator := locator
          fileTime := fileTime
          timeSpan := timeSpan }
      published := published }

/-- The rows that lines describe under a header that names all columns, or the first column that it
does not name. -/
def rowsOfTable (header : Line) (lines : List Line) : Except Column (List Row) :=
  match missingColumns header with
  | column :: _ => .error column
  | [] => .ok (lines.filterMap (Line.row? header))

/-- A catalogue that is a table of separated values. -/
structure TableFile where
  /-- The files that exist at present. -/
  archive : Archive
  /-- The name of the file. -/
  settings : Settings := [⟨"csv-file", "csv file listing the mrt data to read", none, none, true⟩]

namespace TableFile

/-- The name of the catalogue. -/
def name : String := "csvfile"

/-- The bytes of a file, as far as they matter to the reader of a table: a dump of any elements is
no text, and a database names no columns in front. -/
def bytesOf : File → List UInt8
  | .bytes content => content
  | .dump [] false | .database _ => []
  | .dump _ _ => [0xFF]

/-- The failure of a table whose first line cannot be read. -/
def unreadableHeader (path : String) : FeedError :=
  .unavailable ("cannot read csv header of " ++ path)

/-- The rows of a table that is kept in a file of a given name. -/
def rowsOf (path : String) (bytes : List UInt8) : Except FeedError (List Row) :=
  let lines := Separated.lines bytes
  match Separated.fields? (lines.headD []) with
  | none => .error (unreadableHeader path)
  | some header =>
    match rowsOfTable header (lines.tail.filterMap Separated.fields?) with
    | .ok rows => .ok rows
    | .error column =>
      .error (.misconfigured ("csv file " ++ path ++ " has no " ++ column.name ++ " column"))

/-- The rows of the table at present. -/
def rows (t : TableFile) : Except FeedError (List Row) := do
  let path ← t.settings.require name "csv-file"
  match t.archive.place? path with
  | none => .error (.unavailable ("cannot read csv file " ++ path))
  | some (.file content) => rowsOf path (bytesOf content)
  | some _ => .error (unreadableHeader path)

/-- The answer to a question at present. -/
def answer (t : TableFile) (criteria : Criteria) (cursor : Cursor) : Except FeedError Answer := do
  selectPublished criteria cursor (← t.rows)

instance : Catalogue TableFile where
  name _ := name
  description _ := "Retrieve metadata information from a csv file"
  settings := settings
  set t option value :=
    (t.settings.set name option value).map fun settings => { t with settings := settings }
  query t criteria cursor := (t.answer criteria cursor, t)

end TableFile

end RouteFeed
