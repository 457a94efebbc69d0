import RouteFeed.Proofs.Catalogue.Conduct
import RouteFeed.Proofs.Merge.Erasure

/-!
# Failures of dumps

What a merge fails with comes from the dumps: it is what stands behind the records of one of them.
So if no dump ends as if it were about the phase of a feed, a merge never fails that way, whatever
is opened and delivered. The dumps of an archive do not.

## Main definitions

* `Contents.IsHonest`, `Opener.IsHonest` — a dump, or each dump, ends honestly
* `Merge.IsHonest` — all failures that a merge may come to are honest

## Main results

* `Archive.isHonest_opener` — the dumps of an archive
* `Merge.IsHonest.add`, `Merge.IsHonest.next` — opening dumps, and asking the merge once
-/

namespace RouteFeed

/-- No failure behind the records, or one that is not about the phase of a feed. -/
def Contents.IsHonest (x : Contents) : Prop :=
  ∀ e, x.failure? = some e → e.isWrongPhase = false

/-- Each dump that can be opened ends honestly. -/
def Opener.IsHonest (opener : Opener) : Prop := ∀ chunk x, opener chunk = .ok x → x.IsHonest

theorem File.isHonest_contents (locator : String) (file : File) :
    (file.contents locator).IsHonest := by
  intro e damaged
  cases file with
  | bytes content =>
    simp only [contents, Option.ite_none_left_eq_some, Option.some.injEq] at damaged
    exact damaged.2 ▸ rfl
  | dump elements torn =>
    simp only [contents, Option.ite_none_right_eq_some, Option.some.injEq] at damaged
    exact damaged.2 ▸ rfl
  | database content =>
    cases damaged
    rfl

theorem Archive.isHonest_opener (a : Archive) : a.opener.IsHonest := by
  intro chunk x opened
  unfold opener at opened
  split at opened
  · rename_i place _
    cases opened
    cases place with
    | file content => exact content.isHonest_contents chunk.locator
    | inside | outside =>
      intro e damaged
      cases damaged
      rfl
  · cases opened

namespace Merge

variable {c : Criteria} {m m' : Merge} {opener : Opener}
  {result : Except FeedError (Option Record)}

/-- No failure that waits, stands behind an open dump or comes with a dump that will be opened is
about the phase of a feed. -/
structure IsHonest (m : Merge) : Prop where
  opener : m.opener.IsHonest
  failures : ∀ e ∈ m.failures, e.isWrongPhase = false
  lanes : ∀ l ∈ m.lanes, l.rest.IsHonest

namespace IsHonest

theorem of_isEmpty (idle : m.isEmpty) (opener : m.opener.IsHonest) : m.IsHonest := by
  obtain ⟨lanes, failures⟩ := isEmpty_iff.mp idle
  exact ⟨opener, by simp [failures], by simp [lanes]⟩

theorem clear (honest : m.IsHonest) : m.clear.IsHonest := .of_isEmpty rfl honest.opener

theorem withOpener (honest : m.IsHonest) (other : opener.IsHonest) :
    IsHonest { m with opener := opener } :=
  ⟨other, honest.failures, honest.lanes⟩

theorem addChunk (honest : m.IsHonest) (c : Criteria) (chunk : Chunk) :
    (m.addChunk c chunk).IsHonest := by
  rw [addChunk_eq]
  refine ⟨honest.opener, fun e waiting => ?_, fun l open_now => ?_⟩
  · rcases List.mem_append.mp waiting with before | now
    · exact honest.failures e before
    · obtain ⟨x, opens, damaged⟩ := openError?_spec (Option.mem_toList.mp now)
      exact honest.opener chunk x opens e damaged
  · rcases List.mem_append.mp open_now with before | now
    · exact honest.lanes l before
    · obtain ⟨-, x, opens, same⟩ := opened?_spec (Option.mem_toList.mp now)
      intro e damaged
      exact honest.opener chunk x opens e (same.trans damaged)

theorem add (honest : m.IsHonest) (c : Criteria) (chunks : List Chunk) :
    (m.add c chunks).IsHonest := by
  unfold Merge.add
  induction chunks generalizing m with
  | nil => exact honest
  | cons chunk chunks ih => exact ih (honest.addChunk c chunk)

theorem afterLane {l : Lane} {others : List Lane} (honest : m.IsHonest)
    (lanes : m.lanes.Perm (l :: others)) : (m.afterLane c l others).IsHonest := by
  have own : l.rest.IsHonest := honest.lanes l (lanes.mem_iff.mpr List.mem_cons_self)
  refine ⟨honest.opener, fun e waiting => ?_, fun l' open_now => ?_⟩
  · rcases List.mem_append.mp waiting with before | now
    · exact honest.failures e before
    · exact own e (Contents.failure_of_error? (Option.mem_toList.mp now))
  · rcases List.mem_append.mp open_now with before | now
    · exact honest.lanes l' (lanes.mem_iff.mpr (List.mem_cons_of_mem _ before))
    · intro e damaged
      exact own e ((Lane.failure_of_successor? (Option.mem_toList.mp now)).symm.trans damaged)

/-- What an honest merge delivers is no failure that is about the phase, and it stays honest. -/
theorem next (honest : m.IsHonest) (next : m.next c = (result, m')) :
    FailsHonestly result ∧ m'.IsHonest := by
  have advances := m.advances_next c
  rw [next] at advances
  cases advances with
  | ended => exact ⟨.ok _, honest⟩
  | @failure e failures waiting =>
    have known : ∀ e' ∈ e :: failures, e'.isWrongPhase = false := waiting ▸ honest.failures
    obtain ⟨first, others⟩ := List.forall_mem_cons.mp known
    exact ⟨.error first, honest.opener, others, honest.lanes⟩
  | record failures lanes => exact ⟨.ok _, honest.afterLane lanes⟩

end IsHonest

end Merge

end RouteFeed
