import RouteFeed.Catalogue.Source
import RouteFeed.Proofs.Catalogue.Published

/-!
# Steady catalogues

A catalogue is *steady* if questions do not change it, its answers are sorted by the times of the
chunks, and it has nothing more to list behind its first answer. Tables of chunks and databases are
steady as long as nobody changes them. For a database this rests on what a question selects: with a
later time of publication it selects some of the same rows.

## Main definitions

* `Catalogue.Steady` — what a catalogue that does not change does

## Main results

* `Database.select_later` — a question for later rows selects some of the same rows
* `Source.steady_table`, `Source.steady_database` — tables and databases are steady
-/

namespace RouteFeed

/-- What a catalogue that does not change does. -/
structure Catalogue.Steady {κ : Type} [Catalogue κ] (k : κ) : Prop where
  /-- Questions do not change it. -/
  unchanged : ∀ c cursor, (Catalogue.query k c cursor).2 = k
  /-- The chunks of an answer are in the order of their times. -/
  sorted : ∀ c cursor answer, (Catalogue.query k c cursor).1 = .ok answer →
    Chunk.SortedByTime answer.chunks
  /-- Behind the first answer with chunks there are no more chunks. -/
  complete : ∀ c answer, (Catalogue.query k c .start).1 = .ok answer → answer.chunks ≠ [] →
    ∃ next, (Catalogue.query k c answer.next).1 = .ok ⟨[], next⟩

/-! ## What a database selects -/

section Selection

variable {α β : Type} {f : α → Option β} {xs : List α} {ys : List β}

theorem mem_of_mapM_eq_some (all : xs.mapM f = some ys) {x : α} (hx : x ∈ xs) :
    ∃ y ∈ ys, f x = some y := by
  induction xs generalizing ys with
  | nil => cases hx
  | cons x' xs ih =>
    rw [List.mapM_cons, Option.bind_eq_bind, Option.bind_eq_some_iff] at all
    obtain ⟨y, hy, all⟩ := all
    rw [Option.bind_eq_bind, Option.bind_eq_some_iff] at all
    obtain ⟨ys', hys', all⟩ := all
    obtain rfl := Option.some.inj all
    rcases List.mem_cons.mp hx with rfl | hx
    · exact ⟨y, List.mem_cons_self, hy⟩
    · obtain ⟨z, hz, eq⟩ := ih hys' hx
      exact ⟨z, List.mem_cons_of_mem _ hz, eq⟩

theorem exists_mapM_eq_some (each : ∀ x ∈ xs, ∃ y ∈ ys, f x = some y) :
    ∃ zs, xs.mapM f = some zs ∧ ∀ z ∈ zs, z ∈ ys := by
  induction xs with
  | nil => exact ⟨[], rfl, by simp⟩
  | cons x xs ih =>
    obtain ⟨y, hy, eq⟩ := each x List.mem_cons_self
    obtain ⟨zs, all, inside⟩ := ih fun x hx => each x (List.mem_cons_of_mem _ hx)
    exact ⟨y :: zs, by simp [List.mapM_cons, eq, all], List.forall_mem_cons.mpr ⟨hy, inside⟩⟩

end Selection

/-- A cell that is greater than an integer is greater than lesser ones. -/
theorem Cell.exceeds_of_le {cell : Cell} {a b : Int64} (le : a ≤ b) (h : cell.exceeds b) :
    cell.exceeds a := by
  cases cell with
  | null => simp [exceeds] at h
  | integer n =>
    simp only [exceeds, atMost, Bool.and_eq_true, Bool.not_eq_true', decide_eq_false_iff_not] at h ⊢
    exact ⟨by simp, fun small => h.2 (Int64.le_trans small le)⟩
  | real x =>
    simp only [exceeds, atMost, Bool.and_eq_true, Bool.not_eq_true', decide_eq_false_iff_not] at h ⊢
    refine ⟨by simp, fun small => h.2 (Int.le_trans small ?_)⟩
    exact Int.mul_le_mul_of_nonneg_right (Int64.le_iff_toInt_le.mp le) (Int.natCast_nonneg _)
  | text s => simp [exceeds, atMost]

theorem Database.selects_of_le {entry : Entry} {after after' start stop : Int64}
    (le : after ≤ after') (selected : selects after' start stop entry) :
    selects after start stop entry := by
  rw [selects, Bool.and_eq_true, Bool.and_eq_true] at selected ⊢
  exact ⟨⟨Cell.exceeds_of_le le selected.1.1, selected.1.2⟩, selected.2⟩

/-- A question for rows that were published later selects some of the same rows. -/
theorem Database.select_later {db : Database} {after after' start stop : Int64}
    {entries : List TypedEntry} (selected : db.select after start stop = some entries)
    (later : after ≤ after') :
    ∃ entries', db.select after' start stop = some entries' ∧ ∀ e ∈ entries', e ∈ entries := by
  unfold select at selected ⊢
  cases table : db.entries? with
  | none => simp [table] at selected
  | some es =>
    simp only [table, Option.bind_eq_bind, Option.bind_some, Option.bind_eq_some_iff,
      Option.some.injEq] at selected
    obtain ⟨typed, all, rfl⟩ := selected
    have each : ∀ e ∈ es.filter (selects after' start stop), ∃ y ∈ typed, typed? e = some y := by
      intro e he
      obtain ⟨inside, selected⟩ := List.mem_filter.mp he
      exact mem_of_mapM_eq_some all (List.mem_filter.mpr ⟨inside, selects_of_le later selected⟩)
    obtain ⟨typed', all', inside⟩ := exists_mapM_eq_some each
    refine ⟨typed'.mergeSort TypedEntry.precedes, by simp [all'], fun e he => ?_⟩
    exact List.mem_mergeSort.mpr (inside e (List.mem_mergeSort.mp he))

/-! ## Tables and databases -/

variable {c : Criteria} {cursor : Cursor} {answer : Answer}

theorem TableFile.answer_eq {t : TableFile} {rows : List Row} (kept : t.rows = .ok rows)
    (c : Criteria) (cursor : Cursor) : t.answer c cursor = selectPublished c cursor rows := by
  rw [answer, kept]
  rfl

theorem TableFile.exists_rows {t : TableFile} (answered : t.answer c cursor = .ok answer) :
    ∃ rows, t.rows = .ok rows := by
  cases kept : t.rows with
  | error e =>
    rw [TableFile.answer, kept] at answered
    cases answered
  | ok rows => exact ⟨rows, rfl⟩

theorem TableFile.steady (t : TableFile) : Catalogue.Steady t where
  unchanged _ _ := rfl
  sorted c cursor answer answered := by
    change t.answer c cursor = .ok answer at answered
    obtain ⟨rows, kept⟩ := exists_rows answered
    rw [answer_eq kept] at answered
    exact sortedByTime_of_selectPublished answered
  complete c answer answered some_chunk := by
    change t.answer c .start = .ok answer at answered
    show ∃ next, t.answer c answer.next = .ok ⟨[], next⟩
    obtain ⟨rows, kept⟩ := exists_rows answered
    rw [answer_eq kept] at answered
    obtain ⟨last, next, seen⟩ := exists_next_of_selectPublished answered some_chunk
    rw [answer_eq kept, next]
    exact selectPublished_of_seen seen

namespace DatabaseFile

/-- The first and the last second of the stretch of time that a question is about. -/
def stretch (c : Criteria) : Seconds × Seconds :=
  (c.interval?.elim Seconds.least Interval.start,
    (c.interval?.bind Interval.stop?).getD Seconds.greatest)

theorem answerFrom_eq {after? : Option Seconds} (db : Database) (c : Criteria)
    (here : cursor.time = .ok after?) : answerFrom db c cursor =
      match db.select (after?.getD Seconds.least) (stretch c).1 (stretch c).2 with
      | none => .error (.unavailable "sqlite error")
      | some entries => selectPublished c cursor (entries.filterMap rowOfEntry?) := by
  rw [answerFrom, here]
  rfl

theorem exists_entries {db : Database} (answered : answerFrom db c cursor = .ok answer) :
    ∃ after? entries, cursor.time = .ok after? ∧
      db.select (after?.getD Seconds.least) (stretch c).1 (stretch c).2 = some entries ∧
      selectPublished c cursor (entries.filterMap rowOfEntry?) = .ok answer := by
  cases here : cursor.time with
  | error e =>
    rw [answerFrom, here] at answered
    cases answered
  | ok after? =>
    rw [answerFrom_eq db c here] at answered
    cases selected : db.select (after?.getD Seconds.least) (stretch c).1 (stretch c).2 with
    | none =>
      rw [selected] at answered
      cases answered
    | some entries =>
      rw [selected] at answered
      exact ⟨after?, entries, rfl, selected, answered⟩

/-- Behind the first answer with chunks an open database lists no more. -/
theorem exists_answerFrom_again {db : Database} (answered : answerFrom db c .start = .ok answer)
    (some_chunk : answer.chunks ≠ []) :
    ∃ next, answerFrom db c answer.next = .ok ⟨[], next⟩ := by
  obtain ⟨after?, entries, here, selected, answered⟩ := exists_entries answered
  obtain rfl := Except.ok.inj (Cursor.time_start.symm.trans here)
  obtain ⟨last, next, seen⟩ := exists_next_of_selectPublished answered some_chunk
  obtain ⟨entries', selected', inside⟩ :=
    Database.select_later selected last.minValue_le
  have here' := Cursor.time_ofTime last
  rw [next, answerFrom_eq db c here', Option.getD_some, selected']
  refine selectPublished_of_seen fun r hr => ?_
  obtain ⟨e, he, row⟩ := List.mem_filterMap.mp hr
  exact seen r (List.mem_filterMap.mpr ⟨e, inside e he, row⟩)

theorem steady (d : DatabaseFile) : Catalogue.Steady d where
  unchanged _ _ := rfl
  sorted c cursor answer answered := by
    change d.answer c cursor = .ok answer at answered
    unfold DatabaseFile.answer at answered
    cases opened : d.open? with
    | none => simp [opened] at answered
    | some db =>
      rw [opened] at answered
      obtain ⟨_, _, _, _, answered⟩ := exists_entries answered
      exact sortedByTime_of_selectPublished answered
  complete c answer answered some_chunk := by
    change d.answer c .start = .ok answer at answered
    show ∃ next, d.answer c answer.next = .ok ⟨[], next⟩
    unfold DatabaseFile.answer at answered ⊢
    cases opened : d.open? with
    | none => simp [opened] at answered
    | some db =>
      rw [opened] at answered
      exact exists_answerFrom_again answered some_chunk

end DatabaseFile

namespace Source

theorem steady_table (t : TableFile) : Catalogue.Steady (table t) := by
  obtain ⟨unchanged, sorted, complete⟩ := t.steady
  exact ⟨fun c cursor => rfl, sorted, complete⟩

theorem steady_database (d : DatabaseFile) : Catalogue.Steady (database d) := by
  obtain ⟨unchanged, sorted, complete⟩ := d.steady
  exact ⟨fun c cursor => rfl, sorted, complete⟩

end Source

end RouteFeed
