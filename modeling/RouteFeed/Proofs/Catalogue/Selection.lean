import RouteFeed.Proofs.Catalogue.Steady

/-!
# What a database selects

A question to a database can be answered if the database has the table and none of the rows that are
selected holds something else than it should. Then the answer is made of the rows that are selected
and hold what they should, and what else there is in the table does not matter.

## Main definitions

* `Database.TypedEntry.toEntry` — a row as it is stored
* `Database.wellFormed` — the rows of a known kind that hold what they should
* `Database.IsTyped` — questions about a stretch of time can be answered

## Main results

* `Database.exists_select` — the rows that a question selects
* `Database.IsTyped.exists_select` — the well-formed rows that a question selects
-/

namespace RouteFeed

theorem mapM_eq_some_filterMap {α β : Type} {f : α → Option β} {xs : List α}
    (each : ∀ x ∈ xs, (f x).isSome) : xs.mapM f = some (xs.filterMap f) := by
  induction xs with
  | nil => rfl
  | cons x xs ih =>
    obtain ⟨first, others⟩ := List.forall_mem_cons.mp each
    obtain ⟨y, here⟩ := Option.isSome_iff_exists.mp first
    rw [List.mapM_cons, ih others, here, List.filterMap_cons, here]
    rfl

theorem published_of_row {e : Database.TypedEntry} {r : Row} (row : rowOfEntry? e = some r) :
    r.published = e.published := by
  obtain ⟨kind, -, rfl⟩ := Option.map_eq_some_iff.mp row
  rfl

theorem Cell.text?_eq_some_iff {cell : Cell} {s : String} :
    cell.text? = some s ↔ cell = .text s := by
  cases cell <;> simp [text?]

theorem Cell.integer?_eq_some_iff {cell : Cell} {n : Int64} :
    cell.integer? = some n ↔ cell = .integer n := by
  cases cell <;> simp [integer?]

namespace Database

variable {db : Database} {es : List Entry} {e : TypedEntry} {after start stop : Seconds}

/-- The row as it is stored. -/
def TypedEntry.toEntry (e : TypedEntry) : Entry where
  locator := .text e.locator
  project := .text e.project
  collector := .text e.collector
  kind := .text e.kind
  fileTime := .integer e.fileTime
  timeSpan := .integer e.timeSpan
  published := .integer e.published

@[simp] theorem typed?_toEntry (e : TypedEntry) : typed? e.toEntry = some e := rfl

@[simp] theorem store_toEntry (e : TypedEntry) : Schema.typed.store e.toEntry = e.toEntry := rfl

theorem eq_toEntry_of_typed? {entry : Entry} (typed : typed? entry = some e) :
    entry = e.toEntry := by
  obtain ⟨locator, project, collector, kind, fileTime, timeSpan, published⟩ := entry
  simp only [typed?, Option.bind_eq_bind, Option.bind_eq_some_iff, Cell.text?_eq_some_iff,
    Cell.integer?_eq_some_iff] at typed
  obtain ⟨_, rfl, _, rfl, _, rfl, _, rfl, _, rfl, _, rfl, _, rfl, same⟩ := typed
  cases same
  rfl

/-- A question selects rows, if none of those that it selects holds something else than it
should. -/
theorem exists_select (table : db.entries? = some es) (after start stop : Seconds)
    (typed : ∀ entry ∈ es, selects after start stop entry → (typed? entry).isSome) :
    ∃ selected, db.select after start stop = some selected ∧
      selected.Perm ((es.filter (selects after start stop)).filterMap typed?) := by
  have each : ∀ entry ∈ es.filter (selects after start stop), (typed? entry).isSome := by
    intro entry hentry
    obtain ⟨inside, selected⟩ := List.mem_filter.mp hentry
    exact typed entry inside selected
  refine ⟨_, ?_, List.mergeSort_perm _ TypedEntry.precedes⟩
  rw [select, table, Option.bind_eq_bind, Option.bind_some, mapM_eq_some_filterMap each]
  rfl

/-! ## Well-formed rows -/

/-- The rows of a known kind all of whose cells hold what they should. -/
def wellFormed (db : Database) : List Row :=
  (db.entries?.getD []).filterMap fun entry => (typed? entry).bind rowOfEntry?

/-- There is a table, and no row holds something else than it should, among those that questions
about a stretch of time select. -/
def IsTyped (db : Database) (start stop : Seconds) : Prop :=
  ∃ es, db.entries? = some es ∧
    ∀ entry ∈ es, selects Seconds.least start stop entry → (typed? entry).isSome

/-- A stored row that describes a chunk. -/
def entryOf (r : Row) : Entry :=
  TypedEntry.toEntry ⟨r.chunk.locator, r.chunk.project, r.chunk.collector, r.chunk.kind.name,
    r.chunk.fileTime, r.chunk.timeSpan, r.published⟩

/-- Whether a row is selected does not depend on the way in which its kind is written. -/
theorem selects_toEntry_eq {r : Row} (row : rowOfEntry? e = some r) (after start stop : Seconds) :
    selects after start stop e.toEntry = selects after start stop (entryOf r) := by
  obtain ⟨kind, -, rfl⟩ := Option.map_eq_some_iff.mp row
  rfl

/-- A question selects those of the well-formed rows that it selects one by one. -/
theorem IsTyped.exists_select (typed : db.IsTyped start stop) (after : Seconds) :
    ∃ selected, db.select after start stop = some selected ∧
      (selected.filterMap rowOfEntry?).Perm
        (db.wellFormed.filter fun r => selects after start stop (entryOf r)) := by
  obtain ⟨es, table, typed⟩ := typed
  obtain ⟨selected, found, perm⟩ := Database.exists_select table after start stop
    fun entry inside chosen => typed entry inside (selects_of_le (Int64.minValue_le after) chosen)
  refine ⟨selected, found, (perm.filterMap rowOfEntry?).trans (.of_eq ?_)⟩
  rw [wellFormed, table, Option.getD_some, List.filterMap_filterMap, List.filterMap_filter,
    List.filter_filterMap]
  refine List.filterMap_congr fun entry _ => ?_
  cases here : typed? entry with
  | none => simp
  | some e =>
    obtain rfl := eq_toEntry_of_typed? here
    cases row : rowOfEntry? e with
    | none => simp [row]
    | some r => simp [row, Option.filter, selects_toEntry_eq row]

end Database

end RouteFeed
