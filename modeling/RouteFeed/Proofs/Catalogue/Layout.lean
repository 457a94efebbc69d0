import Mathlib.Data.Fin.VecNotation
import Mathlib.Data.Fintype.Basic
import Mathlib.Logic.Equiv.Basic
import RouteFeed.Proofs.Catalogue.Steady

/-!
# The layout of a table

What a table of chunks says does not depend on its layout. The lines that describe a chunk give one
row each, in their order, and all other lines give none, wherever they stand. The columns may stand
in any order and among others. The only thing that has to stay is which column comes first of those
that have the same name, since it is the one that counts.

## Main definitions

* `Line.IsWellFormed`, `Line.Describes` — the lines that describe a chunk, and the row of such a line
* `Line.Placement` — where the columns of one table stand in another one
* `Line.Placement.KeepsFirst` — the first column of a name stays the first
* `Line.Placement.Carries` — the lines of one table in the columns of the other one
* `TableFile.ReadsAs` — the header and the lines of the file of a table

## Main results

* `Line.row?_eq_some_iff` — which lines give a row, and which row
* `Line.Placement.row?_eq` — a line gives the same row in other columns
* `TableFile.reads_any_layout` — two tables of different layouts
-/

namespace RouteFeed

namespace Line

variable {header header' line line' : Line} {lines lines' : List Line} {r : Row}

/-! ## Lines that describe a chunk -/

/-- A line that describes a chunk has as many fields as the header, among them the name of a dump, a
known kind, and integers where they are needed. -/
structure IsWellFormed (header line : Line) : Prop where
  length : line.length = header.length
  named : field header line .locator ≠ ""
  kind : (DumpKind.read? (field header line .kind)).isSome
  fileTime : (Numeral.seconds? (field header line .fileTime)).isSome
  timeSpan : (Numeral.seconds? (field header line .timeSpan)).isSome
  published : (Numeral.seconds? (field header line .published)).isSome

/-- A line holds what a row says, each part in its column. -/
structure Describes (header line : Line) (r : Row) : Prop where
  locator : field header line .locator = r.chunk.locator
  project : field header line .project = r.chunk.project
  collector : field header line .collector = r.chunk.collector
  kind : DumpKind.read? (field header line .kind) = some r.chunk.kind
  fileTime : Numeral.seconds? (field header line .fileTime) = some r.chunk.fileTime
  timeSpan : Numeral.seconds? (field header line .timeSpan) = some r.chunk.timeSpan
  published : Numeral.seconds? (field header line .published) = some r.published

/-- A line gives the row that it describes if it is well-formed, and none otherwise. -/
theorem row?_eq_some_iff :
    row? header line = some r ↔ IsWellFormed header line ∧ Describes header line r := by
  unfold row?
  by_cases length : line.length = header.length
  · by_cases named : field header line .locator = ""
    · have nameless : ¬ IsWellFormed header line := fun wellFormed => wellFormed.named named
      simp [length, named, nameless]
    · simp only [length, named, ne_eq, not_true_eq_false, if_false, String.isEmpty_iff,
        Option.bind_eq_bind, Option.bind_eq_some_iff, Option.some.injEq]
      constructor
      · rintro ⟨kind, isKind, fileTime, isTime, timeSpan, isSpan, published, isPublished, rfl⟩
        have wellFormed : IsWellFormed header line := by constructor <;> simp [*]
        exact ⟨wellFormed, ⟨rfl, rfl, rfl, isKind, isTime, isSpan, isPublished⟩⟩
      · rintro ⟨-, describes⟩
        refine ⟨_, describes.kind, _, describes.fileTime, _, describes.timeSpan, _,
          describes.published, ?_⟩
        rw [describes.locator, describes.project, describes.collector]
  · have uneven : ¬ IsWellFormed header line := fun wellFormed => length wellFormed.length
    simp [length, uneven]

theorem isSome_row?_iff : (row? header line).isSome ↔ IsWellFormed header line := by
  constructor
  · intro given
    obtain ⟨r, row⟩ := Option.isSome_iff_exists.mp given
    exact (row?_eq_some_iff.mp row).1
  · intro wellFormed
    -- the parts of the row are what the fields are read as
    obtain ⟨kind, isKind⟩ := Option.isSome_iff_exists.mp wellFormed.kind
    obtain ⟨fileTime, isTime⟩ := Option.isSome_iff_exists.mp wellFormed.fileTime
    obtain ⟨timeSpan, isSpan⟩ := Option.isSome_iff_exists.mp wellFormed.timeSpan
    obtain ⟨published, isPublished⟩ := Option.isSome_iff_exists.mp wellFormed.published
    have describes : Describes header line ⟨⟨_, _, kind, _, fileTime, timeSpan⟩, published⟩ :=
      ⟨rfl, rfl, rfl, isKind, isTime, isSpan, isPublished⟩
    exact Option.isSome_iff_exists.mpr ⟨_, row?_eq_some_iff.mpr ⟨wellFormed, describes⟩⟩

instance (header : Line) : DecidablePred (IsWellFormed header) := fun _ =>
  decidable_of_iff _ isSome_row?_iff

theorem row?_eq_none_iff : row? header line = none ↔ ¬ IsWellFormed header line := by
  rw [← isSome_row?_iff, Bool.not_eq_true, Option.isSome_eq_false_iff, Option.isNone_iff_eq_none]

/-- The lines that describe a chunk give one row each, in their order. -/
theorem forall₂_describes (header : Line) (lines : List Line) :
    List.Forall₂ (Describes header) (lines.filter fun line => IsWellFormed header line)
      (lines.filterMap (row? header)) := by
  induction lines with
  | nil => exact .nil
  | cons line lines ih =>
    by_cases wellFormed : IsWellFormed header line
    · obtain ⟨r, row⟩ := Option.isSome_iff_exists.mp (isSome_row?_iff.mpr wellFormed)
      rw [List.filter_cons, if_pos (decide_eq_true wellFormed), List.filterMap_cons_some row]
      exact .cons (row?_eq_some_iff.mp row).2 ih
    · rw [List.filter_cons, if_neg (by simpa using wellFormed),
        List.filterMap_cons_none (row?_eq_none_iff.mpr wellFormed)]
      exact ih

/-! ## Other columns -/

theorem missingColumns_eq_nil_iff : missingColumns header = [] ↔
    ∀ column : Column, column.name ∈ header := by
  unfold missingColumns
  rw [List.filter_eq_nil_iff]
  constructor
  · intro named column
    simpa using named column (by cases column <;> decide)
  · exact fun named column _ => by simpa using named column

/-- Where the columns of a table stand in another one, under the same names. Other columns may stand
there besides. -/
structure Placement (header header' : Line) where
  /-- The place of a column. -/
  place : Fin header.length ↪ Fin header'.length
  /-- It has the same name there. -/
  name_eq : ∀ i, header'.get (place i) = header.get i

namespace Placement

variable {p : Placement header header'}

/-- Of the columns of a name that is needed, the first stands first in the other table, too. -/
def KeepsFirst (p : Placement header header') : Prop :=
  ∀ column : Column, ∀ i : Fin header.length, (i : ℕ) = header.idxOf column.name →
    (p.place i : ℕ) = header'.idxOf column.name

/-- If no two columns have the same name that is needed, and the columns besides have other names,
then no other column can come first. -/
theorem keepsFirst_of_unique
    (unique : ∀ column : Column, ∀ i j, header.get i = column.name → header.get j = column.name →
      i = j)
    (besides : ∀ column : Column, ∀ j, header'.get j = column.name → ∃ i, p.place i = j) :
    p.KeepsFirst := by
  intro column i here
  have isName : header.get i = column.name := by
    have inside : header.idxOf column.name < header.length := here ▸ i.isLt
    simp [here]
  have present : header'.idxOf column.name < header'.length := by
    rw [List.idxOf_lt_length_iff, ← isName, ← p.name_eq i]
    exact List.get_mem _ _
  have first : header'.get ⟨header'.idxOf column.name, present⟩ = column.name :=
    List.idxOf_get present
  -- what stands first there has its name from a column of the table
  obtain ⟨k, place⟩ := besides column _ first
  have same : header.get k = column.name := by rw [← p.name_eq k, place, first]
  obtain rfl := unique column i k isName same
  rw [place]

/-- A line holds the fields of another one, each at the place of its column. -/
structure Moves (p : Placement header header') (fields fields' : Line) : Prop where
  length : fields.length = header.length
  length' : fields'.length = header'.length
  field_eq : ∀ i, fields'[(p.place i : ℕ)]? = fields[(i : ℕ)]?

theorem field_eq (keeps : p.KeepsFirst) (moves : p.Moves line line') {column : Column}
    (named : column.name ∈ header) : field header' line' column = field header line column := by
  have inside := List.idxOf_lt_length_iff.mpr named
  have same := moves.field_eq ⟨header.idxOf column.name, inside⟩
  rw [keeps column _ rfl] at same
  rw [field, field, List.getD_eq_getElem?_getD, List.getD_eq_getElem?_getD, same]

/-- A line gives the same row in other columns. -/
theorem row?_eq (keeps : p.KeepsFirst) (moves : p.Moves line line')
    (complete : ∀ column : Column, column.name ∈ header) :
    row? header' line' = row? header line := by
  have same (column : Column) := field_eq keeps moves (complete column)
  unfold row?
  simp only [moves.length, moves.length', ne_eq, not_true_eq_false, if_false, same]

/-- The lines of one table stand in the columns of the other one, in their order. Lines that describe
no chunk may be left out, and others of this kind may stand anywhere among them. -/
inductive Carries (p : Placement header header') : List Line → List Line → Prop where
  /-- No line is left. -/
  | nil : Carries p [] []
  /-- A line is carried over. -/
  | cons {line line' : Line} {lines lines' : List Line} (moves : p.Moves line line')
      (others : Carries p lines lines') : Carries p (line :: lines) (line' :: lines')
  /-- A line that describes no chunk is left out. -/
  | leave {line : Line} {lines lines' : List Line} (malformed : ¬ IsWellFormed header line)
      (others : Carries p lines lines') : Carries p (line :: lines) lines'
  /-- A line that describes no chunk is put in. -/
  | put {line' : Line} {lines lines' : List Line} (malformed : ¬ IsWellFormed header' line')
      (others : Carries p lines lines') : Carries p lines (line' :: lines')

theorem filterMap_row?_eq (keeps : p.KeepsFirst) (carries : p.Carries lines lines')
    (complete : ∀ column : Column, column.name ∈ header) :
    lines'.filterMap (row? header') = lines.filterMap (row? header) := by
  induction carries with
  | nil => rfl
  | cons moves _ ih =>
    rw [List.filterMap_cons, List.filterMap_cons, row?_eq keeps moves complete, ih]
  | leave malformed _ ih => rw [List.filterMap_cons_none (row?_eq_none_iff.mpr malformed), ih]
  | put malformed _ ih => rw [List.filterMap_cons_none (row?_eq_none_iff.mpr malformed), ih]

theorem complete (p : Placement header header')
    (complete : ∀ column : Column, column.name ∈ header) (column : Column) :
    column.name ∈ header' := by
  obtain ⟨i, name⟩ := List.get_of_mem (complete column)
  rw [← name, ← p.name_eq i]
  exact List.get_mem _ _

end Placement

end Line

/-! ## Files -/

namespace TableFile

/-- The file of a table is read as a header and lines; what is no text does not count as a line. -/
def ReadsAs (t : TableFile) (header : Line) (lines : List Line) : Prop :=
  ∃ path content others, t.settings.require name "csv-file" = .ok path ∧
    t.archive.place? path = some (.file content) ∧
    (Separated.lines (bytesOf content)).map Separated.fields? = some header :: others ∧
    others.reduceOption = lines

variable {t t' : TableFile} {header header' : Line} {lines lines' : List Line}

theorem ReadsAs.rows_eq (reads : t.ReadsAs header lines)
    (complete : ∀ column : Column, column.name ∈ header) :
    t.rows = .ok (lines.filterMap (Line.row? header)) := by
  obtain ⟨path, content, others, named, found, read, rfl⟩ := reads
  obtain ⟨first, rest, split, head, rfl⟩ := List.map_eq_cons_iff.mp read
  have nothing := Line.missingColumns_eq_nil_iff.mpr complete
  have texts : rest.filterMap Separated.fields? =
      (rest.map Separated.fields?).reduceOption := by
    change _ = (rest.map Separated.fields?).filterMap id
    rw [List.filterMap_map, Function.id_comp]
  simp only [rows, named, found, bind, Except.bind]
  unfold rowsOf
  simp only [split, List.headD_cons, List.tail_cons, head, texts, rowsOfTable, nothing]

/-- **Layout.** A table names all columns that are needed. Its lines that describe a chunk give one
row each, in their order, and other lines give none. Another table holds the same lines, with the
columns in another order, among others, and with any lines that describe no chunk; only the first of
the columns of a name that is needed has to stay the first. Then it has the same rows, and answers
every question alike. -/
theorem reads_any_layout (reads : t.ReadsAs header lines) (reads' : t'.ReadsAs header' lines')
    (complete : ∀ column : Column, column.name ∈ header) {p : Line.Placement header header'}
    (keeps : p.KeepsFirst) (carries : p.Carries lines lines') :
    ∃ rows, t.rows = .ok rows ∧
      List.Forall₂ (Line.Describes header)
        (lines.filter fun line => Line.IsWellFormed header line) rows ∧
      t'.rows = .ok rows ∧
      ∀ criteria cursor, (Catalogue.query t' criteria cursor).1 =
        (Catalogue.query t criteria cursor).1 := by
  have kept := reads.rows_eq complete
  have kept' := reads'.rows_eq (p.complete complete)
  rw [Line.Placement.filterMap_row?_eq keeps carries complete] at kept'
  refine ⟨_, kept, Line.forall₂_describes header lines, kept', fun criteria cursor => ?_⟩
  exact (answer_eq kept' criteria cursor).trans (answer_eq kept criteria cursor).symm

/-! ## Tables of different layouts -/

/-- A table that is kept in one file. -/
def ofText (text : String) : TableFile where
  archive := { files := [("dumps.csv", .bytes text.toUTF8.toList)] }
  settings := [⟨"csv-file", "", none, some "dumps.csv", true⟩]

/-- The columns that are needed, and no others. -/
def plainHeader : Line := ["path", "project", "collector", "type", "file_time", "time_span", "ts"]

/-- Two lines that describe a chunk, and between them one without the name of a dump. -/
def plainLines : List Line :=
  [["a", "ris", "rrc00", "ribs", "100", "0", "5"], ["", "ris", "rrc00", "ribs", "100", "0", "6"],
    ["b", "ris", "rrc01", "updates", "200", "300", "7"]]

/-- The same columns in another order, with one more. -/
def mixedHeader : Line :=
  ["ts", "note", "type", "path", "collector", "project", "time_span", "file_time"]

/-- The lines that describe a chunk, and others: one that is too short, and one with a word for an
integer. -/
def mixedLines : List Line :=
  [["short", "line"], ["5", "first", "ribs", "a", "rrc00", "ris", "0", "100"],
    ["soon", "", "ribs", "c", "rrc00", "ris", "0", "100"],
    ["7", "", "updates", "b", "rrc01", "ris", "300", "200"]]

/-- The places of the columns in the other order. -/
def mixedPlaces : Fin 7 ↪ Fin 8 := ⟨![3, 5, 4, 2, 7, 6, 0], by decide⟩

/-- Where the columns stand in the other order. -/
def mixedPlacement : Line.Placement plainHeader mixedHeader := ⟨mixedPlaces, by decide⟩

theorem keepsFirst_mixedPlacement : mixedPlacement.KeepsFirst := by
  refine Line.Placement.keepsFirst_of_unique ?_ ?_
  · rintro (_ | _ | _ | _ | _ | _ | _) <;> decide
  · -- only the note stands in no column of the table
    rintro (_ | _ | _ | _ | _ | _ | _) <;> decide

theorem carries_mixedLines : mixedPlacement.Carries plainLines mixedLines := by
  refine .put (by decide +kernel) (.cons ?_ (.leave (by decide +kernel)
    (.put (by decide +kernel) (.cons ?_ .nil))))
  · constructor <;> decide
  · constructor <;> decide

/-- The first layout. -/
def plainTable : TableFile :=
  ofText ("path,project,collector,type,file_time,time_span,ts\na,ris,rrc00,ribs,100,0,5\n" ++
    ",ris,rrc00,ribs,100,0,6\nb,ris,rrc01,updates,200,300,7\n")

/-- The other layout, with a comment besides. -/
def mixedTable : TableFile :=
  ofText ("ts,note,type,path,collector,project,time_span,file_time\nshort,line\n" ++
    "5, first,ribs,a,rrc00,ris,0,100\nsoon,,ribs,c,rrc00,ris,0,100\n# nothing\n" ++
    "7,,updates,\"b\",rrc01,ris,300,200\n")

theorem complete_plainHeader : ∀ column : Column, column.name ∈ plainHeader := by
  rintro (_ | _ | _ | _ | _ | _ | _) <;> decide

/-- The two tables have the same two rows. -/
theorem reads_any_layout_mixed :
    plainTable.ReadsAs plainHeader plainLines ∧ mixedTable.ReadsAs mixedHeader mixedLines ∧
      ∃ rows, plainTable.rows = .ok rows ∧ mixedTable.rows = .ok rows ∧
        List.Forall₂ (Line.Describes plainHeader) [plainLines[0], plainLines[2]] rows ∧
        ∀ criteria cursor, (Catalogue.query mixedTable criteria cursor).1 =
          (Catalogue.query plainTable criteria cursor).1 := by
  have reads : plainTable.ReadsAs plainHeader plainLines :=
    ⟨"dumps.csv", _, plainLines.map some, rfl, rfl, by decide +kernel, rfl⟩
  have reads' : mixedTable.ReadsAs mixedHeader mixedLines :=
    ⟨"dumps.csv", _, mixedLines.map some, rfl, rfl, by decide +kernel, rfl⟩
  obtain ⟨rows, kept, describes, kept', same⟩ :=
    reads_any_layout reads reads' complete_plainHeader keepsFirst_mixedPlacement carries_mixedLines
  exact ⟨reads, reads', rows, kept, kept', describes, same⟩

/-- A header that names two columns alike. -/
def doubledHeader : Line :=
  ["path", "project", "collector", "type", "file_time", "time_span", "ts", "path"]

/-- One line of a table with this header. -/
def doubledLine : Line := ["a", "ris", "rrc00", "ribs", "0", "300", "5", "b"]

/-- The line after the two columns have traded places. -/
def tradedLine : Line := ["b", "ris", "rrc00", "ribs", "0", "300", "5", "a"]

/-- The table with the first line. -/
def doubledTable : TableFile :=
  ofText "path,project,collector,type,file_time,time_span,ts,path\na,ris,rrc00,ribs,0,300,5,b\n"

/-- The table with the other line. -/
def tradedTable : TableFile :=
  ofText "path,project,collector,type,file_time,time_span,ts,path\nb,ris,rrc00,ribs,0,300,5,a\n"

/-- The two columns of the same name trade places. -/
def trade : Line.Placement doubledHeader doubledHeader :=
  ⟨(Equiv.swap (0 : Fin 8) 7).toEmbedding, by decide⟩

/-- If two columns of the same name trade places, the rows are not the same any more. -/
theorem not_reads_any_layout_of_doubled :
    doubledTable.ReadsAs doubledHeader [doubledLine] ∧
      tradedTable.ReadsAs doubledHeader [tradedLine] ∧
      (∀ column : Column, column.name ∈ doubledHeader) ∧
      Function.Bijective trade.place ∧ trade.Carries [doubledLine] [tradedLine] ∧
      doubledTable.rows.map (List.map fun r => r.chunk.locator) = .ok ["a"] ∧
      tradedTable.rows.map (List.map fun r => r.chunk.locator) = .ok ["b"] := by
  have reads : doubledTable.ReadsAs doubledHeader [doubledLine] :=
    ⟨"dumps.csv", _, [some _], rfl, rfl, by decide +kernel, rfl⟩
  have reads' : tradedTable.ReadsAs doubledHeader [tradedLine] :=
    ⟨"dumps.csv", _, [some _], rfl, rfl, by decide +kernel, rfl⟩
  have complete : ∀ column : Column, column.name ∈ doubledHeader := by
    rintro (_ | _ | _ | _ | _ | _ | _) <;> decide
  refine ⟨reads, reads', complete, (Equiv.swap (0 : Fin 8) 7).bijective,
    .cons ⟨rfl, rfl, by decide⟩ .nil, ?_, ?_⟩
  · rw [reads.rows_eq complete]
    decide +kernel
  · rw [reads'.rows_eq complete]
    decide +kernel

end TableFile

end RouteFeed
