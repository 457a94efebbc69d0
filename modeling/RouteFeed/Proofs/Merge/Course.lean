import RouteFeed.Proofs.Merge.Drain

/-!
# Courses of calls

A merge is used by three kinds of calls: chunks are opened, the next delivery is asked for, all
dumps are closed. Calls of all kinds may follow each other in any order, and each call that opens or
asks has criteria of its own. A *course* says which call comes at which time; the calls are counted
from zero, and a merge that has just been made is what they start from.

## Main definitions

* `Merge.Call` — one call, and what it does
* `Merge.Course` — the calls by time
* `Merge.Course.state`, `Merge.Course.answer` — the merge at a time, and the answer of a call
* `Merge.Course.openings` — the chunks that have been opened
* `Merge.Course.times` — the times at which records, or failures, were returned
-/

namespace RouteFeed.Merge

/-- A call. -/
inductive Call where
  /-- Opens chunks. -/
  | add (criteria : Criteria) (chunks : List Chunk)
  /-- Asks for the next delivery. -/
  | next (criteria : Criteria)
  /-- Closes all dumps. -/
  | clear

namespace Call

/-- The criteria of a call; closing tests no records. -/
def criteria : Call → Criteria
  | add criteria _ => criteria
  | next criteria => criteria
  | clear => {}

/-- The call closes all dumps. -/
def isClear : Call → Bool
  | clear => true
  | _ => false

/-- What a call answers, if it is a question, and the merge afterwards. -/
def apply : Call → Merge → Option (Except FeedError (Option Record)) × Merge
  | add criteria chunks, m => (none, m.add criteria chunks)
  | next criteria, m => (some (m.next criteria).1, (m.next criteria).2)
  | clear, m => (none, m.clear)

/-- The chunks that a call opens, with their contents. -/
def opened (opener : Opener) : Call → List (Chunk × Contents)
  | add _ chunks => chunks.filterMap fun chunk => (opener chunk).toOption.map (chunk, ·)
  | _ => []

end Call

/-- An answer is a record. -/
def isRecord : Option (Except FeedError (Option Record)) → Bool
  | some (.ok (some _)) => true
  | _ => false

/-- An answer is a failure. -/
def isFailure : Option (Except FeedError (Option Record)) → Bool
  | some (.error _) => true
  | _ => false

/-- Which call comes at which time. -/
structure Course where
  /-- What opening a chunk leads to. -/
  opener : Opener
  /-- The calls. -/
  calls : ℕ → Call

namespace Course

variable (h : Course)

/-- The merge at a time, that is after so many calls. -/
def state : ℕ → Merge
  | 0 => { opener := h.opener }
  | t + 1 => ((h.calls t).apply (state t)).2

/-- The answer of the call at a time, if it is a question. -/
def answer (t : ℕ) : Option (Except FeedError (Option Record)) :=
  ((h.calls t).apply (h.state t)).1

/-- The criteria of the call at a time. -/
def criteria (t : ℕ) : Criteria := (h.calls t).criteria

/-- The chunks that have been opened before a time, each with the time and its contents. -/
def openings (t : ℕ) : List (ℕ × Chunk × Contents) :=
  (List.range t).flatMap fun s => ((h.calls s).opened h.opener).map (s, ·)

/-- The times of the calls before a time whose answers are of some kind. -/
def times (kind : Option (Except FeedError (Option Record)) → Bool) (t : ℕ) : List ℕ :=
  (List.range t).filter fun s => kind (h.answer s)

theorem openings_succ (t : ℕ) :
    h.openings (t + 1) = h.openings t ++ ((h.calls t).opened h.opener).map (t, ·) := by
  rw [openings, List.range_succ, List.flatMap_append, List.flatMap_singleton]
  rfl

theorem times_succ (kind : Option (Except FeedError (Option Record)) → Bool) (t : ℕ) :
    h.times kind (t + 1) = h.times kind t ++ if kind (h.answer t) then [t] else [] := by
  rw [times, List.range_succ, List.filter_append, List.filter_singleton, times]
  cases kind (h.answer t) <;> rfl

/-- No call exchanges what opens the chunks. -/
theorem opener_state (t : ℕ) : (h.state t).opener = h.opener := by
  induction t with
  | zero => rfl
  | succ t ih =>
    rw [state]
    cases h.calls t with
    | add criteria chunks => rw [Call.apply, opener_add, ih]
    | clear => exact ih
    | next criteria => rw [Call.apply, opener_next, ih]

end Course

end RouteFeed.Merge
