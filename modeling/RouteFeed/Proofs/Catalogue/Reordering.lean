import Mathlib.Data.List.Nodup
import Mathlib.Data.List.Perm.Basic
import RouteFeed.Proofs.Catalogue.Published

/-!
# The order of rows

The answer of a catalogue that is kept in rows is sorted, and its cursor is the latest time of some
rows. So the order in which the rows stand shows in an answer only where chunks are equal in all
that catalogues sort by. If no two chunks are, then it does not show at all.

## Main results

* `map_catalogueKey_sortChunks` — sorted chunks, up to equal keys
* `sortChunks_eq_of_perm` — sorted chunks with different keys
* `latestOf_eq_of_perm` — the latest time
* `selectPublished_eq_of_perm` — the answer
-/

namespace RouteFeed

variable {chunks chunks' : List Chunk} {rows rows' : List Row} {times times' : List Seconds}

theorem perm_sortChunks (chunks : List Chunk) : (sortChunks chunks).Perm chunks :=
  List.mergeSort_perm chunks _

theorem pairwise_sortChunks (chunks : List Chunk) :
    (sortChunks chunks).Pairwise fun a b => a.precedes b := by
  refine List.pairwise_mergeSort (fun a b c hab hbc => ?_) (fun a b => ?_) chunks
  · rw [Chunk.precedes_iff] at hab hbc ⊢
    exact hab.trans hbc
  · rw [Bool.or_eq_true, Chunk.precedes_iff, Chunk.precedes_iff]
    exact le_total a.catalogueKey b.catalogueKey

/-- In whatever order chunks are sorted, their keys stand in the same order then. -/
theorem map_catalogueKey_sortChunks (perm : chunks.Perm chunks') :
    (sortChunks chunks).map Chunk.catalogueKey = (sortChunks chunks').map Chunk.catalogueKey := by
  have sorted : ∀ chunks,
      ((sortChunks chunks).map Chunk.catalogueKey).Pairwise fun a b => a ≤ b := by
    intro chunks
    rw [List.pairwise_map]
    exact (pairwise_sortChunks chunks).imp Chunk.precedes_iff.mp
  have same := ((perm_sortChunks chunks).trans perm).trans (perm_sortChunks chunks').symm
  exact (same.map Chunk.catalogueKey).eq_of_pairwise (fun _ _ _ _ => le_antisymm) (sorted chunks)
    (sorted chunks')

/-- Chunks with different keys can be sorted in one way only. -/
theorem sortChunks_eq_of_perm (perm : chunks.Perm chunks')
    (distinct : (chunks.map Chunk.catalogueKey).Nodup) :
    sortChunks chunks = sortChunks chunks' := by
  have same := ((perm_sortChunks chunks).trans perm).trans (perm_sortChunks chunks').symm
  refine same.eq_of_pairwise ?_ (pairwise_sortChunks chunks) (pairwise_sortChunks chunks')
  intro a b ha hb hab hba
  have ha := (perm_sortChunks chunks).subset ha
  have hb := perm.symm.subset ((perm_sortChunks chunks').subset hb)
  exact List.inj_on_of_nodup_map distinct ha hb
    (le_antisymm (Chunk.precedes_iff.mp hab) (Chunk.precedes_iff.mp hba))

theorem latestOf_eq_of_perm (before? : Option Seconds) (perm : times.Perm times') :
    latestOf before? times = latestOf before? times' := by
  have comm : RightCommutative fun (latest? : Option Seconds) (t : Seconds) =>
      some (latest?.elim t (·.later t)) := by
    constructor
    intro latest? s t
    congr 1
    rw [← Int64.toInt_inj]
    cases latest? with
    | none => simp [Seconds.toInt_later, max_comm]
    | some r => simp [Seconds.toInt_later, max_right_comm]
  exact perm.foldl_eq before?

/-- Rows whose chunks have different keys give the same answer in any order. -/
theorem selectPublished_eq_of_perm (perm : rows.Perm rows')
    (distinct : (rows.map fun r => r.chunk.catalogueKey).Nodup) (c : Criteria) (cursor : Cursor) :
    selectPublished c cursor rows = selectPublished c cursor rows' := by
  cases here : cursor.time with
  | error e =>
    unfold selectPublished
    rw [here]
    rfl
  | ok after? =>
    have fresh := perm.filter (Row.isAfter after?)
    rw [selectPublished_eq here, selectPublished_eq here,
      latestOf_eq_of_perm after? (fresh.map Row.published)]
    refine congrArg (fun chunks => Except.ok (Answer.mk chunks _)) ?_
    refine sortChunks_eq_of_perm ((fresh.map Row.chunk).filter c.acceptsChunk) ?_
    -- a part of chunks with different keys has different keys
    have part : (((rows.filter (Row.isAfter after?)).map Row.chunk).filter c.acceptsChunk).Sublist
        (rows.map Row.chunk) :=
      List.filter_sublist.trans (List.filter_sublist.map Row.chunk)
    have keys := part.map Chunk.catalogueKey
    rw [List.map_map] at keys
    exact distinct.sublist keys

end RouteFeed
