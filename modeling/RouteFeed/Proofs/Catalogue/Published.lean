import Mathlib.Data.Prod.Lex
import Mathlib.Data.String.Basic
import RouteFeed.Catalogue.Row
import RouteFeed.Proofs.Backlog
import RouteFeed.Proofs.Numeral

/-!
# Catalogues that list by publication

The answer of a catalogue that is kept in rows is sorted by the times of its chunks, and its cursor
stands behind all rows that have been seen. So if the rows do not change, asking again behind an
answer brings nothing.

## Main definitions

* `Chunk.catalogueKey` — what catalogues sort chunks by

## Main results

* `sortedByTime_sortChunks` — sorted chunks are in the order of their times
* `le_latestOf` — no time is later than the latest one
* `selectPublished_of_seen` — rows that have been seen are not listed again
-/

namespace RouteFeed

namespace Chunk

variable {c d : Chunk}

/-- What catalogues sort chunks by: time, kind, collector and place. -/
def catalogueKey (c : Chunk) : ℤ ×ₗ ℕ ×ₗ String ×ₗ String :=
  toLex (c.fileTime.toInt, toLex (c.kind.rank, toLex (c.collector, c.locator)))

theorem precedes_iff : c.precedes d ↔ c.catalogueKey ≤ d.catalogueKey := by
  have gt_iff : order c d = .gt ↔ d.catalogueKey < c.catalogueKey := by
    simp only [order, catalogueKey, Ordering.then_eq_gt, compare_gt_iff_gt, compare_eq_iff_eq,
      Prod.Lex.toLex_lt_toLex]
    grind
  rw [← not_lt, ← gt_iff, precedes]
  cases order c d <;> decide

theorem fileTime_le_of_precedes (h : c.precedes d) : c.fileTime ≤ d.fileTime := by
  rw [precedes_iff, catalogueKey, catalogueKey, Prod.Lex.toLex_le_toLex] at h
  rw [Int64.le_iff_toInt_le]
  rcases h with less | ⟨same, -⟩
  · exact less.le
  · exact same.le

end Chunk

@[simp] theorem sortChunks_nil : sortChunks [] = [] := List.mergeSort_nil

/-- Sorted chunks are in the order of their times. -/
theorem sortedByTime_sortChunks (chunks : List Chunk) :
    Chunk.SortedByTime (sortChunks chunks) := by
  have sorted := @List.pairwise_mergeSort _ Chunk.precedes
    (fun a b c hab hbc => Chunk.precedes_iff.mpr
      ((Chunk.precedes_iff.mp hab).trans (Chunk.precedes_iff.mp hbc)))
    (fun a b => by simpa [Chunk.precedes_iff] using le_total a.catalogueKey b.catalogueKey) chunks
  exact sorted.imp Chunk.fileTime_le_of_precedes

/-! ## The latest time -/

variable {before? : Option Seconds} {times : List Seconds} {t : Seconds}

theorem latestOf_cons (before? : Option Seconds) (t : Seconds) (times : List Seconds) :
    latestOf before? (t :: times) = latestOf (some (before?.elim t (·.later t))) times := rfl

/-- No time is later than the latest one. -/
theorem le_latestOf (latest : latestOf before? times = some t) :
    (∀ s ∈ before?, s ≤ t) ∧ ∀ s ∈ times, s ≤ t := by
  induction times generalizing before? with
  | nil =>
    obtain rfl : before? = some t := latest
    simp
  | cons s times ih =>
    rw [latestOf_cons] at latest
    obtain ⟨first, others⟩ := ih latest
    have first := first _ rfl
    cases before? with
    | none => exact ⟨by simp, List.forall_mem_cons.mpr ⟨first, others⟩⟩
    | some r =>
      refine ⟨fun r' hr' => ?_, List.forall_mem_cons.mpr ⟨?_, others⟩⟩
      · obtain rfl : r = r' := Option.some.inj hr'
        exact Int64.le_trans (Seconds.le_later_left r s) first
      · exact Int64.le_trans (Seconds.le_later_right r s) first

theorem latestOf_eq_none (nothing : latestOf before? times = none) : times = [] := by
  cases times with
  | nil => rfl
  | cons t times =>
    exfalso
    have some_latest : ∀ (times : List Seconds) (s : Seconds), latestOf (some s) times ≠ none := by
      intro times
      induction times with
      | nil => exact fun s => Option.some_ne_none s
      | cons t times ih => exact fun s => ih _
    exact some_latest times _ nothing

/-! ## Answers -/

variable {c : Criteria} {cursor : Cursor} {rows : List Row} {answer : Answer}

theorem selectPublished_eq {after? : Option Seconds} (here : cursor.time = .ok after?) :
    selectPublished c cursor rows = .ok
      ⟨sortChunks (((rows.filter (Row.isAfter after?)).map Row.chunk).filter c.acceptsChunk),
        cursor.advance
          (latestOf after? ((rows.filter (Row.isAfter after?)).map Row.published))⟩ := by
  simp only [selectPublished, here]
  rfl

theorem sortedByTime_of_selectPublished (answered : selectPublished c cursor rows = .ok answer) :
    Chunk.SortedByTime answer.chunks := by
  cases here : cursor.time with
  | error e =>
    simp only [selectPublished, here] at answered
    cases answered
  | ok after? =>
    rw [selectPublished_eq here] at answered
    cases answered
    exact sortedByTime_sortChunks _

/-- Rows that have been seen are not listed again. -/
theorem selectPublished_of_seen {after : Seconds} (seen : ∀ r ∈ rows, r.published ≤ after) :
    ∃ next, selectPublished c (.ofTime after) rows = .ok ⟨[], next⟩ := by
  have nothing : rows.filter (Row.isAfter (some after)) = [] := by
    rw [List.filter_eq_nil_iff]
    intro r hr
    simpa [Row.isAfter] using seen r hr
  rw [selectPublished_eq (Cursor.time_ofTime after), nothing, List.map_nil, List.filter_nil,
    sortChunks_nil]
  exact ⟨_, rfl⟩

/-- The cursor of the first answer stands behind all rows, if there is a row. -/
theorem exists_next_of_selectPublished (answered : selectPublished c .start rows = .ok answer)
    (some_chunk : answer.chunks ≠ []) :
    ∃ t, answer.next = .ofTime t ∧ ∀ r ∈ rows, r.published ≤ t := by
  have all : rows.filter (Row.isAfter none) = rows := by simp [Row.isAfter]
  rw [selectPublished_eq Cursor.time_start, all] at answered
  cases answered
  cases latest : latestOf none (rows.map Row.published) with
  | none =>
    obtain rfl := List.map_eq_nil_iff.mp (latestOf_eq_none latest)
    exact absurd sortChunks_nil some_chunk
  | some t => exact ⟨t, rfl, fun r hr => (le_latestOf latest).2 _ (List.mem_map_of_mem hr)⟩

end RouteFeed
