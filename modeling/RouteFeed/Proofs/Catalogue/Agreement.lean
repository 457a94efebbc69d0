import RouteFeed.Proofs.Catalogue.Growing
import RouteFeed.Proofs.Catalogue.Reordering
import RouteFeed.Proofs.Catalogue.Selection

/-!
# Tables and databases agree

The same rows are kept in a table of separated values and in a database, and rows are appended to
both. Each is asked again and again, behind answers that it gave itself. They list the same chunks,
though their cursors need not be the same: a database leaves out the rows beyond the interval before
it looks for the latest time. What the cursors have in common is that no row that meets the criteria
and was there at the question comes after them, and that they give the time of a row that was there.
New rows come after all of those.

## Main definitions

* `scheduled` — the answers to questions, each behind any one of those before
* `Cursor.Covers` — what the cursors of a table and of a database have in common
* `Catalogue.Selects` — a catalogue that answers from the rows that matter
* `TableFile.Holds`, `DatabaseFile.Holds` — the rows that a table and a database keep
* `Database.Grows` — rows that are appended

## Main results

* `Cursor.Covers.exists_answer` — one question
* `exists_scheduled` — any number of questions
* `TableFile.Holds.selects`, `DatabaseFile.Holds.selects` — tables and databases
* `Database.Grows.answers_agree` — the table and the database
-/

namespace RouteFeed

/-- The answers of a catalogue that is found in one state after another: each question is asked from
the start or behind the answer to an earlier one, as the schedule says. -/
def scheduled {κ : Type} [Catalogue κ] (c : Criteria) (states : ℕ → κ)
    (schedule : (k : ℕ) → Option (Fin k)) (k : ℕ) : Except FeedError Answer :=
  match schedule k with
  | none => (Catalogue.query (states k) c .start).1
  | some j => (scheduled c states schedule j).bind fun answer =>
      (Catalogue.query (states k) c answer.next).1
termination_by k
decreasing_by exact j.isLt

/-- Each question is asked behind the answer before. -/
def behindLast : (k : ℕ) → Option (Fin k)
  | 0 => none
  | k + 1 => some (Fin.last k)

theorem scheduled_behindLast {κ : Type} [Catalogue κ] (c : Criteria) (states : ℕ → κ) (k : ℕ) :
    scheduled c states behindLast k = polled c states k := by
  induction k with
  | zero => rw [scheduled, behindLast, polled]
  | succ k ih =>
    rw [scheduled, behindLast, polled, ← ih]
    rfl

/-! ## What two cursors have in common -/

/-- A row meets the criteria and comes after a time. -/
def Row.isWanted (c : Criteria) (after? : Option Seconds) (r : Row) : Bool :=
  c.acceptsChunk r.chunk && r.isAfter after?

/-- The time of a cursor covers some rows: none of them that meets the criteria comes after it, and
it is the time of one of them. -/
structure Cursor.Covers (c : Criteria) (rows : List Row) (after? : Option Seconds) : Prop where
  past : ∀ r ∈ rows, r.isWanted c after? = false
  attained : ∀ t ∈ after?, ∃ r ∈ rows, r.published = t

/-- A catalogue answers from some of its rows, among them all those that are wanted. -/
def Catalogue.Selects {κ : Type} [Catalogue κ] (c : Criteria) (rows : List Row) (k : κ) : Prop :=
  ∀ cursor after?, cursor.time = .ok after? → ∃ seen,
    (Catalogue.query k c cursor).1 = selectPublished c cursor seen ∧ (∀ r ∈ seen, r ∈ rows) ∧
      (seen.filter (Row.isWanted c after?)).Perm (rows.filter (Row.isWanted c after?))

section Question

variable {c : Criteria} {cursor : Cursor} {rows new seen : List Row} {after? : Option Seconds}

theorem Cursor.time_advance (here : cursor.time = .ok after?) (times : List Seconds) :
    (cursor.advance (latestOf after? times)).time = .ok (latestOf after? times) := by
  cases latest : latestOf after? times with
  | none =>
    obtain rfl := latestOf_eq_none latest
    obtain rfl : after? = none := latest
    exact here
  | some t => exact Cursor.time_ofTime t

/-- What was wanted before is past, and what comes later is wanted if it meets the criteria. -/
theorem Cursor.Covers.filter_isWanted (covers : Covers c rows after?)
    (later : ∀ r ∈ new, ∀ e ∈ rows, e.published < r.published) :
    (rows ++ new).filter (Row.isWanted c after?) = new.filter fun r => c.acceptsChunk r.chunk := by
  have old : rows.filter (Row.isWanted c after?) = [] :=
    List.filter_eq_nil_iff.mpr fun r hr => by simp [covers.past r hr]
  rw [List.filter_append, old, List.nil_append]
  refine List.filter_congr fun r hr => ?_
  have after : r.isAfter after? := by
    cases after? with
    | none => rfl
    | some t =>
      obtain ⟨e, he, rfl⟩ := covers.attained t rfl
      exact decide_eq_true (later r hr e he)
  rw [Row.isWanted, after, Bool.and_true]

theorem Row.isAfter_of_latestOf {r : Row} {times : List Seconds}
    (after : r.isAfter (latestOf after? times)) : r.isAfter after? := by
  cases after? with
  | none => rfl
  | some s =>
    cases latest : latestOf (some s) times with
    | none =>
      obtain rfl := latestOf_eq_none latest
      cases latest
    | some t =>
      have le := (le_latestOf latest).1 s rfl
      simp only [latest, isAfter, decide_eq_true_eq] at after ⊢
      exact Int64.lt_of_le_of_lt le after

/-- A row that has been seen does not come after the latest time. -/
theorem Row.not_isAfter_latestOf {r : Row} (here : r ∈ seen) (fresh : r.isAfter after?) :
    ¬ r.isAfter (latestOf after? ((seen.filter (Row.isAfter after?)).map Row.published)) := by
  have member := List.mem_map_of_mem (f := Row.published) (List.mem_filter.mpr ⟨here, fresh⟩)
  intro after
  cases latest : latestOf after? ((seen.filter (Row.isAfter after?)).map Row.published) with
  | none =>
    rw [latestOf_eq_none latest] at member
    cases member
  | some t =>
    have le := (le_latestOf latest).2 r.published member
    rw [latest, isAfter, decide_eq_true_eq] at after
    exact Int64.lt_irrefl (Int64.lt_of_le_of_lt le after)

/-- The latest time that is seen covers all rows, if all that are wanted are seen. -/
theorem Cursor.Covers.latest (covers : Covers c rows after?) (inside : ∀ r ∈ seen, r ∈ rows ++ new)
    (sees : ∀ r ∈ rows ++ new, r.isWanted c after? → r ∈ seen) :
    Covers c (rows ++ new)
      (latestOf after? ((seen.filter (Row.isAfter after?)).map Row.published)) := by
  constructor
  · intro r hr
    by_contra wanted
    rw [Bool.not_eq_false, Row.isWanted, Bool.and_eq_true] at wanted
    obtain ⟨accepted, after⟩ := wanted
    -- a row that would be wanted now has been wanted before, and so it has been seen
    have fresh := Row.isAfter_of_latestOf after
    have here : r ∈ seen := sees r hr (by rw [Row.isWanted, accepted, fresh]; rfl)
    exact Row.not_isAfter_latestOf here fresh after
  · intro t ht
    rcases mem_of_latestOf ht with old | now
    · obtain ⟨r, hr, same⟩ := covers.attained t old
      exact ⟨r, List.mem_append_left new hr, same⟩
    · obtain ⟨r, hr, same⟩ := List.mem_map.mp now
      exact ⟨r, inside r (List.mem_filter.mp hr).1, same⟩

/-- A question of a catalogue, when rows have been appended behind those that its cursor covers: the
new rows are listed as far as they meet the criteria, and the next cursor covers all rows. -/
theorem Cursor.Covers.exists_answer {κ : Type} [Catalogue κ] {k : κ} (covers : Covers c rows after?)
    (here : cursor.time = .ok after?) (selects : Catalogue.Selects c (rows ++ new) k)
    (later : ∀ r ∈ new, ∀ e ∈ rows, e.published < r.published) :
    ∃ chunks next latest?, (Catalogue.query k c cursor).1 = .ok ⟨sortChunks chunks, next⟩ ∧
      chunks.Perm ((new.filter fun r => c.acceptsChunk r.chunk).map Row.chunk) ∧
      next.time = .ok latest? ∧ Covers c (rows ++ new) latest? := by
  obtain ⟨seen, answered, inside, wanted⟩ := selects cursor after? here
  rw [selectPublished_eq here, List.filter_map, List.filter_filter] at answered
  refine ⟨_, _, _, answered, ?_, Cursor.time_advance here _, covers.latest inside ?_⟩
  · rw [← covers.filter_isWanted later]
    exact wanted.map Row.chunk
  · intro r hr isWanted
    have member := wanted.symm.subset (List.mem_filter.mpr ⟨hr, isWanted⟩)
    exact (List.mem_filter.mp member).1

end Question

/-! ## Any number of questions -/

section Questions

variable {κ : Type} [Catalogue κ] {c : Criteria} {states : ℕ → κ} {rows : ℕ → List Row}

/-- Some rows have been appended, all of them later than those before. -/
def Appended (old now : List Row) : Prop :=
  ∃ new, now = old ++ new ∧ ∀ r ∈ new, ∀ e ∈ old, e.published < r.published

/-- The rows that a question may list: those behind the rows that were there at the question whose
answer it is asked behind. -/
def unheard (rows : ℕ → List Row) (schedule : (k : ℕ) → Option (Fin k)) (k : ℕ) : List Row :=
  (rows k).drop ((schedule k).elim 0 fun j => (rows j).length)

/-- Each question lists the new rows as far as they meet the criteria, whatever the catalogue makes
of its cursors. -/
theorem exists_scheduled (selects : ∀ k, Catalogue.Selects c (rows k) (states k))
    (grows : ∀ j k, j ≤ k → Appended (rows j) (rows k)) (schedule : (k : ℕ) → Option (Fin k))
    (k : ℕ) : ∃ chunks next latest?,
      scheduled c states schedule k = .ok ⟨sortChunks chunks, next⟩ ∧
      chunks.Perm
        (((unheard rows schedule k).filter fun r => c.acceptsChunk r.chunk).map Row.chunk) ∧
      next.time = .ok latest? ∧ Cursor.Covers c (rows k) latest? := by
  -- the cursor of each answer covers the rows that were there at its question
  induction k using Nat.strong_induction_on with
  | _ k ih =>
    rw [scheduled, unheard]
    cases schedule k with
    | none =>
      have covers : Cursor.Covers c [] none := ⟨by simp, by simp⟩
      exact covers.exists_answer Cursor.time_start (selects k) (by simp)
    | some j =>
      obtain ⟨chunks, cursor, after?, answered, -, here, covers⟩ := ih j j.isLt
      obtain ⟨new, same, later⟩ := grows j k j.isLt.le
      dsimp only
      rw [answered, same, Option.elim_some, List.drop_left]
      exact covers.exists_answer here (same ▸ selects k) later

end Questions

/-! ## Rows that both can keep -/

namespace Database

variable {e : TypedEntry} {entries : List TypedEntry} {rows : ℕ → List TypedEntry}

/-- A row that tables and databases can keep alike: it names a dump, was not published at the least
of all times, and covers a stretch that ends in time. -/
structure TypedEntry.IsSound (e : TypedEntry) : Prop where
  named : e.locator ≠ ""
  published : Seconds.least < e.published
  inRange : Seconds.least.toInt ≤ e.fileTime.toInt + e.timeSpan.toInt ∧
    e.fileTime.toInt + e.timeSpan.toInt ≤ Seconds.greatest.toInt

/-- Rows are appended, all of them later than those before. -/
structure Grows (entries : ℕ → List TypedEntry) : Prop where
  sound : ∀ k, ∀ e ∈ entries k, e.IsSound
  appends : ∀ k, ∃ new, entries (k + 1) = entries k ++ new ∧
    ∀ e ∈ new, ∀ e' ∈ entries k, e'.published < e.published

/-- A row was published after a time, its dump does not start after `stop`, and does not end before
`start`. -/
def TypedEntry.isSelected (after start stop : Seconds) (e : TypedEntry) : Bool :=
  decide (after < e.published) && decide (e.fileTime ≤ stop) &&
    decide (start ≤ Seconds.satAdd e.fileTime e.timeSpan)

/-- The sum of a time and a span is that of a database and that of a table, if it is in range. -/
theorem TypedEntry.IsSound.ofInt?_eq (sound : e.IsSound) :
    Seconds.ofInt? (e.fileTime.toInt + e.timeSpan.toInt) =
      some (Seconds.satAdd e.fileTime e.timeSpan) := by
  have low : Int64.minValue.toInt ≤ e.fileTime.toInt + e.timeSpan.toInt := sound.inRange.1
  have high : e.fileTime.toInt + e.timeSpan.toInt ≤ Int64.maxValue.toInt := sound.inRange.2
  rw [Seconds.ofInt?, if_pos sound.inRange, Seconds.satAdd, Int64.ofIntClamp, dif_pos low,
    dif_pos high, Int64.ofIntLE_eq_ofInt]

theorem TypedEntry.IsSound.selects_eq (sound : e.IsSound) (after start stop : Seconds) :
    selects after start stop e.toEntry = e.isSelected after start stop := by
  have sum : Quantity.add? (.integer e.fileTime) (.integer e.timeSpan) =
      some (.integer (Seconds.satAdd e.fileTime e.timeSpan)) := by
    rw [Quantity.add?, sound.ofInt?_eq]
  have later : (!decide (e.published ≤ after)) = decide (after < e.published) := by
    rw [← decide_not]
    exact decide_eq_decide.mpr Int64.not_le
  simp [selects, toEntry, Cell.exceeds, Cell.atMost, Cell.quantity, sum, Cell.ofQuantity,
    Cell.atLeast, later, isSelected]

/-- A question to a database that holds some rows selects those that were published after the time
and may overlap the interval. -/
theorem exists_select_ofEntries (sound : ∀ e ∈ entries, e.IsSound) (after start stop : Seconds) :
    ∃ selected, select (.ofEntries .typed (entries.map TypedEntry.toEntry)) after start stop =
        some selected ∧
      selected.Perm (entries.filter (TypedEntry.isSelected after start stop)) := by
  have table : (ofEntries .typed (entries.map TypedEntry.toEntry)).entries? =
      some (entries.map TypedEntry.toEntry) := by
    rw [ofEntries, List.map_map]
    rfl
  have chosen : entries.filter (selects after start stop ∘ TypedEntry.toEntry) =
      entries.filter (TypedEntry.isSelected after start stop) :=
    List.filter_congr fun e he => (sound e he).selects_eq after start stop
  obtain ⟨selected, found, perm⟩ := exists_select table after start stop (by simp)
  rw [List.filter_map, chosen, List.filterMap_map] at perm
  exact ⟨selected, found, by simpa [Function.comp_def] using perm⟩

theorem Grows.appended (grows : Grows rows) {j k : ℕ} (le : j ≤ k) :
    Appended ((rows j).filterMap rowOfEntry?) ((rows k).filterMap rowOfEntry?) := by
  have appended : ∃ new, rows k = rows j ++ new ∧
      ∀ e ∈ new, ∀ e' ∈ rows j, e'.published < e.published := by
    induction le with
    | refl => exact ⟨[], by simp⟩
    | @step k _ ih =>
      obtain ⟨new, same, later⟩ := ih
      obtain ⟨new', same', later'⟩ := grows.appends k
      refine ⟨new ++ new', by rw [same', same, List.append_assoc], fun e he e' he' => ?_⟩
      rcases List.mem_append.mp he with before | now
      · exact later e before e' he'
      · exact later' e now e' (by simp [same, he'])
  obtain ⟨new, same, later⟩ := appended
  refine ⟨new.filterMap rowOfEntry?, by rw [same, List.filterMap_append], fun r hr r' hr' => ?_⟩
  obtain ⟨e, he, row⟩ := List.mem_filterMap.mp hr
  obtain ⟨e', he', row'⟩ := List.mem_filterMap.mp hr'
  rw [published_of_row row, published_of_row row']
  exact later e he e' he'

end Database

/-! ## Tables and databases -/

section Kept

variable {c : Criteria} {entries : List Database.TypedEntry} {e : Database.TypedEntry}
  {header line : Line} {lines : List Line}

/-- A line holds the fields of a row under a header. -/
structure Line.Writes (header line : Line) (e : Database.TypedEntry) : Prop where
  length : line.length = header.length
  locator : field header line .locator = e.locator
  project : field header line .project = e.project
  collector : field header line .collector = e.collector
  kind : field header line .kind = e.kind
  fileTime : Numeral.seconds? (field header line .fileTime) = some e.fileTime
  timeSpan : Numeral.seconds? (field header line .timeSpan) = some e.timeSpan
  published : Numeral.seconds? (field header line .published) = some e.published

/-- The file of a table is read as a header that names all columns, and as one line for each of some
rows. -/
def TableFile.Holds (t : TableFile) (entries : List Database.TypedEntry) : Prop :=
  ∃ path content header lines, t.settings.require TableFile.name "csv-file" = .ok path ∧
    t.archive.place? path = some (.file content) ∧
    (Separated.lines (bytesOf content)).map Separated.fields? = some header :: lines.map some ∧
    missingColumns header = [] ∧ List.Forall₂ (Line.Writes header) lines entries

/-- The open database of a catalogue has a table of four texts and three integers that holds some
rows. -/
def DatabaseFile.Holds (d : DatabaseFile) (entries : List Database.TypedEntry) : Prop :=
  d.open? = some (.ofEntries .typed (entries.map Database.TypedEntry.toEntry))

theorem Line.Writes.row?_eq (writes : Writes header line e) (named : e.locator ≠ "") :
    row? header line = rowOfEntry? e := by
  have some_name : (field header line .locator).isEmpty = false := by
    simpa [writes.locator] using named
  unfold row? rowOfEntry?
  rw [if_neg (not_not.mpr writes.length)]
  dsimp only
  rw [some_name, if_neg Bool.false_ne_true, writes.kind, writes.fileTime, writes.timeSpan,
    writes.published, writes.locator, writes.project, writes.collector]
  cases DumpKind.read? e.kind <;> rfl

theorem filterMap_row?_eq (writes : List.Forall₂ (Line.Writes header) lines entries)
    (named : ∀ e ∈ entries, e.locator ≠ "") :
    lines.filterMap (Line.row? header) = entries.filterMap rowOfEntry? := by
  induction writes with
  | nil => rfl
  | cons first _ ih =>
    obtain ⟨some_name, named⟩ := List.forall_mem_cons.mp named
    rw [List.filterMap_cons, List.filterMap_cons, first.row?_eq some_name, ih named]

theorem TableFile.Holds.rows_eq {t : TableFile} (holds : t.Holds entries)
    (sound : ∀ e ∈ entries, e.IsSound) : t.rows = .ok (entries.filterMap rowOfEntry?) := by
  obtain ⟨path, content, header, lines, named, found, read, complete, writes⟩ := holds
  obtain ⟨first, others, split, head, tail⟩ := List.map_eq_cons_iff.mp read
  have texts : others.filterMap Separated.fields? = lines := by
    have whole := congrArg (List.filterMap id) tail
    rw [List.filterMap_map, List.filterMap_map] at whole
    simpa using whole
  simp only [rows, named, found, bind, Except.bind]
  unfold rowsOf
  simp only [split, List.headD_cons, List.tail_cons, head, texts, rowsOfTable, complete]
  rw [filterMap_row?_eq writes fun e he => (sound e he).named]

theorem TableFile.Holds.selects {t : TableFile} (holds : t.Holds entries)
    (sound : ∀ e ∈ entries, e.IsSound) (c : Criteria) :
    Catalogue.Selects c (entries.filterMap rowOfEntry?) t := fun cursor _ _ =>
  ⟨_, TableFile.answer_eq (holds.rows_eq sound) c cursor, fun _ => id, .refl _⟩

/-- A row that meets the criteria and comes after a time is selected by a database. -/
theorem Database.TypedEntry.IsSound.isSelected_of_isWanted {r : Row} {after? : Option Seconds}
    (sound : e.IsSound) (row : rowOfEntry? e = some r) (wanted : r.isWanted c after?) :
    e.isSelected (after?.getD Seconds.least) (DatabaseFile.stretch c).1
      (DatabaseFile.stretch c).2 := by
  obtain ⟨kind, -, rfl⟩ := Option.map_eq_some_iff.mp row
  rw [Row.isWanted, Bool.and_eq_true] at wanted
  obtain ⟨accepted, after⟩ := wanted
  have later : after?.getD Seconds.least < e.published := by
    cases after? with
    | none => exact sound.published
    | some t => exact of_decide_eq_true after
  rw [Criteria.acceptsChunk, Bool.and_eq_true] at accepted
  have reaches := accepted.2
  unfold isSelected DatabaseFile.stretch
  rw [Bool.and_eq_true, Bool.and_eq_true, decide_eq_true_iff, decide_eq_true_iff,
    decide_eq_true_iff]
  cases interval : c.interval? with
  | none => exact ⟨⟨later, Int64.le_maxValue _⟩, Int64.minValue_le _⟩
  | some i =>
    obtain ⟨start, stop?⟩ := i
    simp only [interval, Interval.reaches, Bool.and_eq_true, decide_eq_true_eq] at reaches
    refine ⟨⟨later, ?_⟩, reaches.2⟩
    cases stop? with
    | none => exact Int64.le_maxValue _
    | some stop => exact of_decide_eq_true reaches.1

theorem DatabaseFile.Holds.selects {d : DatabaseFile} (holds : d.Holds entries)
    (sound : ∀ e ∈ entries, e.IsSound) (c : Criteria) :
    Catalogue.Selects c (entries.filterMap rowOfEntry?) d := by
  intro cursor after? here
  obtain ⟨selected, found, perm⟩ := Database.exists_select_ofEntries sound
    (after?.getD Seconds.least) (stretch c).1 (stretch c).2
  refine ⟨selected.filterMap rowOfEntry?, ?_, fun r hr => ?_, ?_⟩
  · change d.answer c cursor = _
    unfold DatabaseFile.answer
    rw [holds]
    change answerFrom _ c cursor = _
    rw [answerFrom_eq _ c here, found]
  · obtain ⟨e, he, row⟩ := List.mem_filterMap.mp hr
    exact List.mem_filterMap.mpr ⟨e, (List.mem_filter.mp (perm.subset he)).1, row⟩
  · refine ((perm.filterMap rowOfEntry?).filter _).trans (.of_eq ?_)
    rw [List.filterMap_filter, List.filter_filterMap, List.filter_filterMap]
    refine List.filterMap_congr fun e he => ?_
    cases row : rowOfEntry? e with
    | none => simp
    | some r =>
      by_cases wanted : r.isWanted c after?
      · simp [(sound e he).isSelected_of_isWanted row wanted]
      · split_ifs <;> simp [Option.filter, wanted]

end Kept

/-- **Tables and databases agree.** Rows are appended to a table of separated values and to a
database, each time rows that are later than all before. Both are asked again and again with the
same criteria, each question from the start or behind the answer of the same catalogue to an earlier
one. Then every question is answered by both with the same chunks, in the same order but for chunks
that are equal in time, kind, collector and place. -/
theorem Database.Grows.answers_agree {entries : ℕ → List TypedEntry} {tables : ℕ → TableFile}
    {databases : ℕ → DatabaseFile} (grows : Grows entries)
    (tabled : ∀ k, (tables k).Holds (entries k)) (stored : ∀ k, (databases k).Holds (entries k))
    (c : Criteria) (schedule : (k : ℕ) → Option (Fin k)) (k : ℕ) :
    ∃ a b : Answer, scheduled c tables schedule k = .ok a ∧
      scheduled c databases schedule k = .ok b ∧ a.chunks.Perm b.chunks ∧
      a.chunks.map Chunk.catalogueKey = b.chunks.map Chunk.catalogueKey := by
  obtain ⟨chunks, next, -, answered, listed, -⟩ := exists_scheduled
    (fun k => (tabled k).selects (grows.sound k) c) (fun _ _ => grows.appended) schedule k
  obtain ⟨chunks', next', -, answered', listed', -⟩ := exists_scheduled
    (fun k => (stored k).selects (grows.sound k) c) (fun _ _ => grows.appended) schedule k
  have same := listed.trans listed'.symm
  refine ⟨_, _, answered, answered', ?_, map_catalogueKey_sortChunks same⟩
  exact ((perm_sortChunks chunks).trans same).trans (perm_sortChunks chunks').symm

/-! ## Rows beyond the interval -/

namespace Database.Grows

/-- Two rows that are equal in all that catalogues sort by, the second one published first; one
beyond the interval of the sample, and one of an unknown kind. -/
def sampleEntries : List TypedEntry :=
  [⟨"a", "ris", "rrc00", "updates", 50, 300, 5⟩, ⟨"a", "routeviews", "rrc00", "update", 50, 300, 4⟩,
    ⟨"b", "ris", "rrc00", "rib", 500, 0, 9⟩, ⟨"c", "ris", "rrc00", "table", 50, 0, 7⟩]

/-- A row that is appended behind the first question. -/
def lateEntry : TypedEntry := ⟨"d", "ris", "rrc00", "RIBS", -60, 60, 10⟩

/-- The rows that are there at a question. -/
def sampleRows (k : ℕ) : List TypedEntry :=
  if k = 0 then sampleEntries else sampleEntries ++ [lateEntry]

/-- The lines of a table with these rows. -/
def sampleText (k : ℕ) : String :=
  "ts,path,project,note,collector,type,file_time,time_span\n5,a,ris,,rrc00,updates,50,300\n" ++
  "# the same dump\n4,a,routeviews,\"x,y\",rrc00,update,50,+300\n" ++
  "9,b,ris,,rrc00,rib,500,0\n7, c ,ris,,rrc00,table,050,0\n" ++
  if k = 0 then "" else "10,d,ris,,rrc00,RIBS,-60,60\n"

/-- A table with these rows. -/
def sampleTables (k : ℕ) : TableFile where
  archive := { files := [("dumps.csv", .bytes (sampleText k).toUTF8.toList)] }
  settings := [⟨"csv-file", "", none, some "dumps.csv", true⟩]

/-- A database with these rows. -/
def sampleDatabases (k : ℕ) : DatabaseFile where
  archive := {}
  open? := some (.ofEntries .typed ((sampleRows k).map TypedEntry.toEntry))

/-- The criteria of the questions. -/
def sampleCriteria : Criteria := { interval? := some ⟨0, some 100⟩ }

theorem grows_sampleRows : Grows sampleRows where
  sound k e he := by
    have member : e ∈ sampleEntries ++ [lateEntry] := by
      cases k with
      | zero => exact List.mem_append_left _ he
      | succ k => exact he
    simp only [sampleEntries, lateEntry, List.cons_append, List.nil_append, List.mem_cons,
      List.not_mem_nil, or_false] at member
    rcases member with rfl | rfl | rfl | rfl | rfl <;> constructor <;> decide
  appends k := by
    cases k with
    | zero => exact ⟨[lateEntry], rfl, by decide +kernel⟩
    | succ k => exact ⟨[], by simp [sampleRows], by simp⟩

/-- The header of the table as it is read. -/
def sampleHeader : Line :=
  ["ts", "path", "project", "note", "collector", "type", "file_time", "time_span"]

/-- The lines of the first rows as they are read. -/
def sampleLines : List Line :=
  [["5", "a", "ris", "", "rrc00", "updates", "50", "300"],
    ["4", "a", "routeviews", "x,y", "rrc00", "update", "50", "+300"],
    ["9", "b", "ris", "", "rrc00", "rib", "500", "0"],
    ["7", "c", "ris", "", "rrc00", "table", "050", "0"]]

/-- The line of the row that is appended, as it is read. -/
def lateLine : Line := ["10", "d", "ris", "", "rrc00", "RIBS", "-60", "60"]

theorem writes_sampleLines : List.Forall₂ (Line.Writes sampleHeader) sampleLines sampleEntries := by
  refine .cons ?_ (.cons ?_ (.cons ?_ (.cons ?_ .nil))) <;> constructor <;> decide +kernel

theorem writes_lateLine : Line.Writes sampleHeader lateLine lateEntry := by
  constructor <;> decide +kernel

theorem holds_sampleTables (k : ℕ) : (sampleTables k).Holds (sampleRows k) := by
  cases k with
  | zero =>
    exact ⟨"dumps.csv", _, sampleHeader, sampleLines, rfl, rfl, by decide +kernel,
      by decide +kernel, writes_sampleLines⟩
  | succ k =>
    change (sampleTables 1).Holds (sampleRows 1)
    exact ⟨"dumps.csv", _, sampleHeader, sampleLines ++ [lateLine], rfl, rfl, by decide +kernel,
      by decide +kernel, List.rel_append writes_sampleLines (.cons writes_lateLine .nil)⟩

theorem holds_sampleDatabases (k : ℕ) : (sampleDatabases k).Holds (sampleRows k) := rfl

/-- The first cursor of the table gives the time of the row beyond the interval, which the database
has not seen. At the second question both list the new row. -/
theorem answers_agree_sample :
    (polled sampleCriteria sampleTables 0).map Answer.next = .ok (.ofTime 9) ∧
      (polled sampleCriteria sampleDatabases 0).map Answer.next = .ok (.ofTime 5) ∧
      ∀ k, ∃ a b : Answer, polled sampleCriteria sampleTables k = .ok a ∧
        polled sampleCriteria sampleDatabases k = .ok b ∧ a.chunks.Perm b.chunks ∧
        a.chunks.map Chunk.catalogueKey = b.chunks.map Chunk.catalogueKey := by
  refine ⟨?_, ?_, fun k => ?_⟩
  · have rows := (holds_sampleTables 0).rows_eq (grows_sampleRows.sound 0)
    change ((sampleTables 0).answer sampleCriteria .start).map Answer.next = _
    rw [TableFile.answer_eq rows, selectPublished_eq Cursor.time_start]
    decide +kernel
  · obtain ⟨selected, found, perm⟩ := exists_select_ofEntries (grows_sampleRows.sound 0)
      ((none : Option Seconds).getD Seconds.least) (DatabaseFile.stretch sampleCriteria).1
      (DatabaseFile.stretch sampleCriteria).2
    change (DatabaseFile.answerFrom _ sampleCriteria .start).map Answer.next = _
    rw [DatabaseFile.answerFrom_eq _ _ Cursor.time_start, found]
    dsimp only
    -- the latest time is the same in whatever order the rows are selected
    have times := (((perm.filterMap rowOfEntry?).filter (Row.isAfter none)).map Row.published)
    rw [selectPublished_eq Cursor.time_start, latestOf_eq_of_perm none times, Except.map]
    dsimp only
    decide +kernel
  · rw [← scheduled_behindLast, ← scheduled_behindLast]
    exact grows_sampleRows.answers_agree holds_sampleTables holds_sampleDatabases sampleCriteria
      behindLast k

end Database.Grows

end RouteFeed
