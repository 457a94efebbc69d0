import Mathlib.Data.List.Infix
import RouteFeed.Proofs.Catalogue.Reordering
import RouteFeed.Proofs.Catalogue.Steady

/-!
# Tables that grow

Rows are appended to a table, and it is asked for chunks again and again, each time behind its last
answer. The cursor of an answer is the latest time of publication of all rows so far. So a question
lists a row just if the row was published after all rows that the questions before it could see: a
row that comes late, or in the same second as one before, is never listed.

## Main definitions

* `TableFile.Grows` — the states of a table to which rows are appended
* `Cursor.StandsBehind` — a cursor that gives the latest time of publication of some rows
* `polled` — the answers to questions, each behind the one before
* `listedAt` — the rows that a question lists, with their places in the table

## Main results

* `exists_answer_of_standsBehind` — one question
* `TableFile.Grows.polled_eq` — any number of questions
* `TableFile.Grows.lists_once` — which rows are listed, and when
-/

namespace RouteFeed

/-- A cursor gives the latest time of publication of some rows, and is the start without rows. -/
inductive Cursor.StandsBehind : List Row → Cursor → Prop where
  | start : StandsBehind [] .start
  | latest {rows : List Row} {latest : Row} (here : latest ∈ rows)
      (bound : ∀ r ∈ rows, r.published ≤ latest.published) :
      StandsBehind rows (.ofTime latest.published)

/-- Whether a row was published after some others. -/
def Row.comesAfter (before : List Row) (r : Row) : Bool := before.all (·.published < r.published)

section Question

variable {c : Criteria} {cursor : Cursor} {before now : List Row} {r : Row}
  {before? : Option Seconds} {times : List Seconds} {t : Seconds}

theorem Row.comesAfter_iff : r.comesAfter before ↔ ∀ e ∈ before, e.published < r.published := by
  simp [comesAfter]

theorem Row.not_comesAfter_of_mem (here : r ∈ before) : ¬ r.comesAfter before := fun after =>
  Int64.lt_irrefl (comesAfter_iff.mp after r here)

theorem mem_of_latestOf (latest : latestOf before? times = some t) :
    before? = some t ∨ t ∈ times := by
  induction times generalizing before? with
  | nil => exact .inl latest
  | cons s times ih =>
    rw [latestOf_cons] at latest
    rcases ih latest with first | later
    · cases before? with
      | none =>
        obtain rfl : s = t := Option.some.inj first
        exact .inr List.mem_cons_self
      | some r =>
        obtain rfl : r.later s = t := Option.some.inj first
        unfold Seconds.later
        split_ifs
        · exact .inr List.mem_cons_self
        · exact .inl rfl
    · exact .inr (List.mem_cons_of_mem s later)

/-- The time of a cursor behind some rows is that of one of them, and the rows after it are those
that come after all of them. -/
theorem Cursor.StandsBehind.exists_time (stands : cursor.StandsBehind before) :
    ∃ after?, cursor.time = .ok after? ∧ (∀ r : Row, r.isAfter after? = r.comesAfter before) ∧
      ∀ t ∈ after?, ∃ e ∈ before, e.published = t := by
  cases stands with
  | start => exact ⟨none, Cursor.time_start, fun _ => rfl, by simp⟩
  | @latest _ latest here bound =>
    refine ⟨some latest.published, Cursor.time_ofTime _, fun r => ?_, ?_⟩
    · rw [Bool.eq_iff_iff, Row.comesAfter_iff, Row.isAfter, decide_eq_true_iff]
      constructor
      · exact fun after e he => Int64.lt_of_le_of_lt (bound e he) after
      · exact fun after => after latest here
    · rintro t ⟨⟩
      exact ⟨latest, here, rfl⟩

theorem Cursor.StandsBehind.advance {after? : Option Seconds} (stands : cursor.StandsBehind before)
    (appends : before <+: now) (attained : ∀ t ∈ after?, ∃ e ∈ before, e.published = t) :
    (cursor.advance (latestOf after?
      ((now.filter (Row.isAfter after?)).map Row.published))).StandsBehind now := by
  cases latest : latestOf after? ((now.filter (Row.isAfter after?)).map Row.published) with
  | none =>
    -- without a time all rows are after the cursor, so there are none
    have nothing := List.map_eq_nil_iff.mp (latestOf_eq_none latest)
    rw [nothing] at latest
    obtain rfl : after? = none := latest
    obtain rfl : now = [] := (List.filter_eq_self.mpr fun _ _ => rfl).symm.trans nothing
    obtain rfl := List.prefix_nil.mp appends
    exact stands
  | some t =>
    obtain ⟨old, new⟩ := le_latestOf latest
    -- rows that are not after the cursor are not later than its time, which is not later than `t`
    have bound : ∀ r ∈ now, r.published ≤ t := by
      intro r hr
      by_cases after : r.isAfter after?
      · exact new _ (List.mem_map_of_mem (List.mem_filter.mpr ⟨hr, after⟩))
      · cases after? with
        | none => exact absurd rfl after
        | some s =>
          have le : r.published ≤ s := by simpa [Row.isAfter] using after
          exact Int64.le_trans le (old s rfl)
    obtain ⟨r, hr, rfl⟩ : ∃ r ∈ now, r.published = t := by
      rcases mem_of_latestOf latest with rfl | here
      · obtain ⟨e, he, same⟩ := attained t rfl
        exact ⟨e, appends.subset he, same⟩
      · obtain ⟨r, hr, same⟩ := List.mem_map.mp here
        exact ⟨r, (List.mem_filter.mp hr).1, same⟩
    exact .latest hr bound

/-- A question behind some rows, when others may have been appended: those are listed that come
after the rows, and the cursor stands behind them all. -/
theorem exists_answer_of_standsBehind (c : Criteria) (stands : cursor.StandsBehind before)
    (appends : before <+: now) :
    ∃ next, selectPublished c cursor now = .ok
        ⟨sortChunks
          ((now.filter fun r => c.acceptsChunk r.chunk && r.comesAfter before).map Row.chunk),
          next⟩ ∧
      next.StandsBehind now := by
  obtain ⟨after?, here, isAfter, attained⟩ := stands.exists_time
  refine ⟨_, ?_, stands.advance appends attained⟩
  rw [selectPublished_eq here, List.filter_map, List.filter_filter]
  simp only [isAfter, Function.comp_apply]

end Question

/-! ## Many questions -/

/-- The answers of a catalogue that is found in one state after another: each question is asked
behind the answer before. -/
def polled {κ : Type} [Catalogue κ] (c : Criteria) (states : ℕ → κ) : ℕ → Except FeedError Answer
  | 0 => (Catalogue.query (states 0) c .start).1
  | k + 1 => (polled c states k).bind fun answer =>
      (Catalogue.query (states (k + 1)) c answer.next).1

/-- The rows that a question lists, with their places in the table: those that the criteria let
through and that come after all that the questions before it could see. -/
def listedAt (c : Criteria) (rows : ℕ → List Row) (k : ℕ) : List (Row × ℕ) :=
  (rows k).zipIdx.filter fun entry =>
    c.acceptsChunk entry.1.chunk && decide (∀ j < k, entry.1.comesAfter (rows j))

/-- Rows are appended to a table. -/
structure TableFile.Grows (tables : ℕ → TableFile) (rows : ℕ → List Row) : Prop where
  kept : ∀ k, (tables k).rows = .ok (rows k)
  appends : ∀ k, rows k <+: rows (k + 1)

namespace TableFile.Grows

variable {c : Criteria} {tables : ℕ → TableFile} {rows : ℕ → List Row} {i j k : ℕ}

theorem isPrefix (grows : Grows tables rows) (le : j ≤ k) : rows j <+: rows k := by
  induction le with
  | refl => exact List.prefix_rfl
  | step _ ih => exact ih.trans (grows.appends _)

/-- What was visible to earlier questions was visible to the last one of them. -/
theorem comesAfter_iff (grows : Grows tables rows) {r : Row} :
    (∀ j < k + 1, r.comesAfter (rows j)) ↔ r.comesAfter (rows k) := by
  constructor
  · exact fun after => after k k.lt_succ_self
  · intro after j lt
    rw [Row.comesAfter_iff] at after ⊢
    exact fun e he => after e ((grows.isPrefix (Nat.le_of_lt_succ lt)).subset he)

theorem chunks_listedAt (c : Criteria) (rows : ℕ → List Row) (k : ℕ) :
    (listedAt c rows k).map (·.1.chunk) = ((rows k).filter fun r =>
      c.acceptsChunk r.chunk && decide (∀ j < k, r.comesAfter (rows j))).map Row.chunk := by
  -- leave the places out of the pairs
  conv_rhs => rw [← List.zipIdx_map_fst 0 (rows k)]
  rw [List.filter_map, List.map_map]
  rfl

theorem polled_eq (grows : Grows tables rows) (c : Criteria) (k : ℕ) :
    ∃ next, polled c tables k = .ok ⟨sortChunks ((listedAt c rows k).map (·.1.chunk)), next⟩ ∧
      next.StandsBehind (rows k) := by
  induction k with
  | zero =>
    obtain ⟨next, answered, stands⟩ :=
      exists_answer_of_standsBehind c .start (List.nil_prefix (l := rows 0))
    refine ⟨next, ?_, stands⟩
    rw [chunks_listedAt]
    simp only [Nat.not_lt_zero, false_imp_iff, implies_true, decide_true]
    exact (answer_eq (grows.kept 0) c .start).trans answered
  | succ k ih =>
    -- the cursor stands behind the rows of the question before
    obtain ⟨cursor, answered, stands⟩ := ih
    obtain ⟨next, answered', stands'⟩ := exists_answer_of_standsBehind c stands (grows.appends k)
    refine ⟨next, ?_, stands'⟩
    rw [chunks_listedAt, polled, answered]
    simp only [grows.comesAfter_iff, Bool.decide_eq_true]
    exact (answer_eq (grows.kept (k + 1)) c cursor).trans answered'

theorem mem_listedAt {r : Row} : (r, i) ∈ listedAt c rows k ↔
    (rows k)[i]? = some r ∧ c.acceptsChunk r.chunk ∧ ∀ j < k, r.comesAfter (rows j) := by
  simp [listedAt, List.mem_filter, List.mem_zipIdx_iff_getElem?]

theorem getElem?_of_le (grows : Grows tables rows) (le : j ≤ k) {r : Row}
    (here : (rows j)[i]? = some r) : (rows k)[i]? = some r := by
  obtain ⟨more, same⟩ := grows.isPrefix le
  obtain ⟨inside, -⟩ := List.getElem?_eq_some_iff.mp here
  rw [← same, List.getElem?_append_left inside, here]

/-- A row that an earlier question could see is not listed. -/
theorem not_mem_listedAt_of_lt (grows : Grows tables rows) (lt : j < k) {r r' : Row}
    (visible : (rows j)[i]? = some r) : (r', i) ∉ listedAt c rows k := by
  intro listed
  obtain ⟨here, -, after⟩ := mem_listedAt.mp listed
  obtain rfl : r = r' := Option.some.inj ((grows.getElem?_of_le lt.le visible).symm.trans here)
  exact Row.not_comesAfter_of_mem (List.mem_of_getElem? visible) (after j lt)

/-- **Growing tables.** Rows are appended to a table, and it is asked again and again, each time
behind its last answer. Each question is answered by the chunks of the rows that it lists, one for
each of them and sorted, and the cursor of the answer is the latest time of publication of all rows
so far, or the start as long as there are none. No row is listed by two questions. A row that is first visible to a question is
listed by it just if it meets the criteria and was published after every row that an earlier
question could see, and otherwise no question ever lists it. -/
theorem lists_once (grows : Grows tables rows) (c : Criteria) :
    (∀ k, ∃ answer, polled c tables k = .ok answer ∧
      answer.chunks = sortChunks ((listedAt c rows k).map (·.1.chunk)) ∧
      answer.chunks.Perm ((listedAt c rows k).map (·.1.chunk)) ∧
      answer.next.StandsBehind (rows k)) ∧
    (∀ k, (listedAt c rows k).Sublist (rows k).zipIdx) ∧
    (∀ i k k' r r', (r, i) ∈ listedAt c rows k → (r', i) ∈ listedAt c rows k' → k = k') ∧
    ∀ i k r, (rows k)[i]? = some r → (∀ j < k, (rows j).length ≤ i) →
      ((r, i) ∈ listedAt c rows k ↔
        c.acceptsChunk r.chunk ∧ ∀ j < k, ∀ e ∈ rows j, e.published < r.published) ∧
      ((r, i) ∉ listedAt c rows k → ∀ k' r', (r', i) ∉ listedAt c rows k') := by
  have once : ∀ i k k' r r', (r, i) ∈ listedAt c rows k → (r', i) ∈ listedAt c rows k' →
      k = k' := by
    intro i k k' r r' listed listed'
    -- what the earlier of two questions lists is visible to the later one as an old row
    rcases Nat.lt_trichotomy k k' with lt | rfl | lt
    · exact absurd listed' (grows.not_mem_listedAt_of_lt lt (mem_listedAt.mp listed).1)
    · rfl
    · exact absurd listed (grows.not_mem_listedAt_of_lt lt (mem_listedAt.mp listed').1)
  refine ⟨fun k => ?_, fun k => List.filter_sublist, once, fun i k r here first => ⟨?_, ?_⟩⟩
  · obtain ⟨next, answered, stands⟩ := grows.polled_eq c k
    exact ⟨_, answered, rfl, perm_sortChunks _, stands⟩
  · simp only [mem_listedAt, here, true_and, Row.comesAfter_iff]
  · intro unlisted k' r' listed
    obtain ⟨here', -⟩ := mem_listedAt.mp listed
    rcases Nat.lt_trichotomy k' k with lt | rfl | lt
    · -- the row is not there yet
      rw [List.getElem?_eq_none (first k' lt)] at here'
      cases here'
    · obtain rfl : r = r' := Option.some.inj (here.symm.trans here')
      exact unlisted listed
    · exact grows.not_mem_listedAt_of_lt lt here listed

/-! ## A table with rows that come too late -/

/-- Rows of dumps that are alike but for their names and times of publication. -/
def sampleRows : List Row :=
  [("a", 5), ("b", 5), ("c", 4), ("d", 7), ("e", 6)].map fun (locator, published) =>
    ⟨⟨"ris", "rrc00", .update, locator, 0, 300⟩, published⟩

/-- A table that holds the first row at the first question, and all from then on. -/
def sampleTables (k : ℕ) : TableFile where
  archive :=
    { files := [("dumps.csv", .bytes ("path,project,collector,type,file_time,time_span,ts\n" ++
        "a,ris,rrc00,update,0,300,5\n" ++ if k = 0 then "" else
        "b,ris,rrc00,update,0,300,5\nc,ris,rrc00,update,0,300,4\n" ++
        "d,ris,rrc00,update,0,300,7\ne,ris,rrc00,update,0,300,6\n").toUTF8.toList)] }
  settings := [⟨"csv-file", "", none, some "dumps.csv", true⟩]

/-- The second row comes in the same second as the first one, and the third one late. -/
theorem lists_once_sampleTables : ∃ rows, Grows sampleTables rows ∧
    (∀ k, ∃ answer, polled {} sampleTables k = .ok answer ∧
      answer.chunks = sortChunks ((listedAt {} rows k).map (·.1.chunk)) ∧
      answer.chunks.Perm ((listedAt {} rows k).map (·.1.chunk)) ∧
      answer.next.StandsBehind (rows k)) ∧
    [0, 1, 2].map (fun k => (listedAt {} rows k).map Prod.snd) = [[0], [3, 4], []] := by
  have grows : Grows sampleTables fun k => if k = 0 then sampleRows.take 1 else sampleRows := by
    constructor
    · intro k
      cases k with
      | zero => decide +kernel
      | succ k => exact show (sampleTables 1).rows = .ok sampleRows by decide +kernel
    · intro k
      cases k with
      | zero => exact List.take_prefix 1 sampleRows
      | succ k => exact List.prefix_rfl
  exact ⟨_, grows, (grows.lists_once {}).1, by decide +kernel⟩

end TableFile.Grows

end RouteFeed
