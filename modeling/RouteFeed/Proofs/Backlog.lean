import Mathlib.Data.List.Basic
import RouteFeed.Backlog
import RouteFeed.Proofs.Seconds

/-!
# Batches of the backlog

A batch is taken from the front of the backlog, and it is never empty as long as chunks wait. If the
chunks wait in the order of their times, no chunk behind the batch begins before the cover of each
chunk in the batch is over. That is why all records of a batch may be delivered before those of the
next.

## Main definitions

* `Chunk.SortedByTime` — chunks in the order of their times

## Main results

* `Backlog.batch_append_drop` — the batch and what is left are the backlog
* `Backlog.coverEnd_le_of_mem_batch` — later chunks begin when the batch is over
-/

namespace RouteFeed

/-- Chunks in the order of their times. -/
def Chunk.SortedByTime (chunks : List Chunk) : Prop :=
  chunks.Pairwise fun c d => c.fileTime ≤ d.fileTime

instance (chunks : List Chunk) : Decidable (Chunk.SortedByTime chunks) :=
  inferInstanceAs (Decidable (chunks.Pairwise _))

namespace Backlog

variable {start stop : Seconds} {c d : Chunk} {chunks : List Chunk} {b : Backlog}

theorem following_isPrefix (start stop : Seconds) (chunks : List Chunk) :
    following start stop chunks <+: chunks := by
  fun_induction following start stop chunks with
  | case1 => exact List.prefix_refl _
  | case2 stop c rest inside ih => exact (List.prefix_cons_inj c).mpr ih
  | case3 => exact List.nil_prefix

theorem batch_isPrefix (b : Backlog) : b.batch <+: b := by
  cases b with
  | nil => exact List.prefix_refl _
  | cons c rest => exact (List.prefix_cons_inj c).mpr (following_isPrefix _ _ rest)

/-- The batch and what is left are the backlog. -/
theorem batch_append_drop (b : Backlog) : b.batch ++ b.drop b.batch.length = b := by
  have front := List.prefix_iff_eq_take.mp b.batch_isPrefix
  conv_rhs => rw [← List.take_append_drop b.batch.length b, ← front]

theorem batch_ne_nil (h : b ≠ []) : b.batch ≠ [] := by
  cases b with
  | nil => exact absurd rfl h
  | cons c rest => exact List.cons_ne_nil _ _

theorem length_drop_batch_lt (h : b ≠ []) : (b.drop b.batch.length).length < b.length := by
  have some_chunk := List.length_pos_iff.mpr (batch_ne_nil h)
  have whole := List.length_pos_iff.mpr h
  rw [List.length_drop]
  omega

/-- What is left behind the chunks that follow begins when the cover is over. -/
theorem stop_le_of_mem_drop_following (sorted : Chunk.SortedByTime chunks)
    (begun : ∀ c ∈ chunks, start ≤ c.fileTime)
    (hd : d ∈ chunks.drop (following start stop chunks).length) :
    stop ≤ d.fileTime ∧ ∀ c ∈ following start stop chunks, coverEnd c ≤ d.fileTime := by
  fun_induction following start stop chunks with
  | case1 => cases hd
  | case2 stop c rest inside ih =>
    obtain ⟨ended, covered⟩ := ih sorted.of_cons (fun c hc => begun c (.tail _ hc)) hd
    have endedFirst := Int64.le_trans (Seconds.le_later_left stop (coverEnd c)) ended
    have coveredFirst := Int64.le_trans (Seconds.le_later_right stop (coverEnd c)) ended
    exact ⟨endedFirst, List.forall_mem_cons.mpr ⟨coveredFirst, covered⟩⟩
  | case3 stop c rest outside =>
    have ended : stop ≤ c.fileTime :=
      Int64.not_lt.mp fun lt => outside ⟨begun c List.mem_cons_self, lt⟩
    refine ⟨?_, by simp⟩
    rcases List.mem_cons.mp hd with rfl | later
    · exact ended
    · exact Int64.le_trans ended (List.rel_of_pairwise_cons sorted later)

/-- If chunks wait in the order of their times, those behind the batch begin when the cover of each
chunk in the batch is over. -/
theorem coverEnd_le_of_mem_batch (sorted : Chunk.SortedByTime b) (hc : c ∈ b.batch)
    (hd : d ∈ b.drop b.batch.length) : coverEnd c ≤ d.fileTime := by
  cases b with
  | nil => cases hc
  | cons first rest =>
    have begun : ∀ c ∈ rest, first.fileTime ≤ c.fileTime := (List.pairwise_cons.mp sorted).1
    obtain ⟨ended, covered⟩ := stop_le_of_mem_drop_following sorted.of_cons begun hd
    rcases List.mem_cons.mp hc with rfl | hc
    · exact Int64.le_trans (Seconds.le_later_right _ _) ended
    · exact covered c hc

end Backlog

end RouteFeed
