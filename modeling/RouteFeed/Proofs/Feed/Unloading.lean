import RouteFeed.Proofs.Backlog
import RouteFeed.Proofs.Feed.Run
import RouteFeed.Proofs.Merge.Drain

/-!
# Reading the backlog through

A feed that is read delivers all that its merge holds, then opens the next batch of its backlog, and
so on, until both are empty; only then is the catalogue asked. This comes to an end, since draining
does and every batch makes the backlog shorter.

## Main definitions

* `Unloads` — what is delivered until merge and backlog are empty
* `Delivers` — what is delivered if then more chunks are found, several times
* `Feed.IsRead` — the feed has been started and its end has not been reached

## Main results

* `Unloads.interleaves`, `Delivers.interleaves` — nothing is lost or doubled
* `Feed.IsRead.exists_unloads` — the steps of a feed up to the next question to the catalogue
-/

namespace RouteFeed

/-- What a merge, and behind it a backlog batch by batch, deliver until they are empty. -/
inductive Unloads (c : Criteria) : Merge → Backlog → List (Except FeedError Record) → Prop where
  /-- No chunk waits. -/
  | last (m : Merge) : Unloads c m [] (m.drain c)
  /-- When the merge is empty, the next batch is opened. -/
  | batch {m empty : Merge} {b : Backlog} {results : List (Except FeedError Record)}
      (some_chunk : b ≠ []) (isEmpty : empty.isEmpty) (opener : empty.opener = m.opener)
      (others : Unloads c (empty.add c b.batch) (b.drop b.batch.length) results) :
      Unloads c m b (m.drain c ++ results)

namespace Unloads

variable {c : Criteria} {m : Merge} {b : Backlog} {results : List (Except FeedError Record)}

/-- What is delivered is an interleaving of what the merge and the chunks of the backlog have to
deliver. -/
theorem interleaves (h : Unloads c m b results) :
    Interleaves (m.outputs c ++ b.map (m.opener.output c)) results := by
  induction h with
  | last m => simpa using m.drain_interleaves c
  | @batch m empty b results some_chunk isEmpty opener others ih =>
    refine (m.drain_interleaves c).append ?_
    have whole := Merge.interleaves_of_add isEmpty ih
    rwa [Merge.opener_add, ← List.map_append, b.batch_append_drop, opener] at whole

end Unloads

/-- What a merge, a backlog behind it, and then lists of chunks that are found one after the other
deliver. -/
inductive Delivers (c : Criteria) :
    Merge → Backlog → List (List Chunk) → List (Except FeedError Record) → Prop where
  /-- No chunks are found. -/
  | last {m : Merge} {b : Backlog} {results : List (Except FeedError Record)}
      (unloads : Unloads c m b results) : Delivers c m b [] results
  /-- When everything has been delivered, chunks are found. -/
  | more {m empty : Merge} {b : Backlog} {chunks : List Chunk} {lists : List (List Chunk)}
      {results results' : List (Except FeedError Record)} (unloads : Unloads c m b results)
      (isEmpty : empty.isEmpty) (opener : empty.opener = m.opener)
      (others : Delivers c empty chunks lists results') :
      Delivers c m b (chunks :: lists) (results ++ results')

namespace Delivers

variable {c : Criteria} {m : Merge} {b : Backlog} {lists : List (List Chunk)}
  {results : List (Except FeedError Record)}

/-- What is delivered is an interleaving of what the merge, the chunks of the backlog and those of
the lists have to deliver. -/
theorem interleaves (h : Delivers c m b lists results) :
    Interleaves (m.outputs c ++ (b ++ lists.flatten).map (m.opener.output c)) results := by
  induction h with
  | last unloads => simpa using unloads.interleaves
  | @more m empty b chunks lists results results' unloads isEmpty opener others ih =>
    obtain ⟨lanes, failures⟩ := Merge.isEmpty_iff.mp isEmpty
    rw [show empty.outputs c = [] by simp [Merge.outputs, lanes, failures], List.nil_append,
      opener] at ih
    rw [List.flatten_cons, List.map_append, ← List.append_assoc]
    exact unloads.interleaves.append ih

/-- Opening the next batch when the merge is empty delivers nothing. -/
theorem of_openBatch (isEmpty : m.isEmpty) (some_chunk : b ≠ [])
    (h : Delivers c (m.add c b.batch) (b.drop b.batch.length) lists results) :
    Delivers c m b lists results := by
  have front : ∀ {results}, Unloads c (m.add c b.batch) (b.drop b.batch.length) results →
      Unloads c m b results := by
    intro results unloads
    have whole := Unloads.batch some_chunk isEmpty rfl unloads
    rwa [Merge.drain_of_isEmpty isEmpty, List.nil_append] at whole
  cases h with
  | last unloads => exact .last (front unloads)
  | more unloads isEmpty' opener others =>
    exact .more (front unloads) isEmpty' (by rw [opener, Merge.opener_add]) others

/-- If nothing is left when a list of chunks is found, what is delivered is what reading this list
through delivers. -/
theorem exists_unloads {chunks : List Chunk} (isEmpty : m.isEmpty)
    (h : Delivers c m [] [chunks] results) :
    ∃ empty : Merge, empty.isEmpty ∧ empty.opener = m.opener ∧ Unloads c empty chunks results := by
  cases h with
  | @more _ empty _ _ _ left results unloads isEmpty' opener others =>
    have nothing : left = [] := by
      cases unloads with
      | last => exact Merge.drain_of_isEmpty isEmpty
      | batch some_chunk => exact absurd rfl some_chunk
    cases others with
    | last unloads' => exact ⟨empty, isEmpty', opener, by rwa [nothing, List.nil_append]⟩

end Delivers

namespace Feed

variable {κ : Type} [Catalogue κ] {f : Feed κ}

/-- The feed has been started and its end has not been reached. -/
structure IsRead (f : Feed κ) : Prop where
  /-- It has been started and not been stopped. -/
  running : f.phase = .running
  /-- The end has not been reached. -/
  unfinished : f.exhausted = false

namespace IsRead

/-- As long as the merge has something to deliver, a step delivers it. -/
theorem step_of_next {m : Merge} {result : Except FeedError (Option Record)} (isRead : f.IsRead)
    (next : f.merge.next f.criteria = (result, m)) (answered : result ≠ .ok none) :
    f.step = (.delivered result, { f with merge := m }) := by
  have busy : ¬ f.merge.isEmpty := by
    rw [← Merge.next_eq_none_iff (c := f.criteria), next]
    exact answered
  simp [step, isRead.running, isRead.unfinished, busy, next]

theorem step_of_backlog (isRead : f.IsRead) (idle : f.merge.isEmpty) (waiting : f.backlog ≠ []) :
    f.step = (.again none, f.openBatch) := by
  simp [step, isRead.running, isRead.unfinished, idle, waiting]

theorem step_of_nothing (isRead : f.IsRead) (idle : f.merge.isEmpty) (nothing : f.backlog = []) :
    f.step = f.discover := by
  simp [step, isRead.running, isRead.unfinished, idle, nothing]

theorem exists_drained (isRead : f.IsRead) : ∃ m, m.isEmpty ∧ m.opener = f.merge.opener ∧
    f.Steps ((f.merge.drain f.criteria).map (Except.map some)) { f with merge := m } := by
  suffices drained : ∀ m, ∃ m', m'.isEmpty ∧ m'.opener = m.opener ∧
      Steps { f with merge := m } ((m.drain f.criteria).map (Except.map some))
        { f with merge := m' } from drained f.merge
  intro m
  have stays : ∀ m, IsRead { f with merge := m } := fun m => ⟨isRead.running, isRead.unfinished⟩
  fun_induction Merge.drain f.criteria m with
  | case1 m m' next =>
    exact ⟨m, Merge.next_eq_none_iff.mp (congrArg Prod.fst next), rfl, .refl _⟩
  | case2 m r m' next ih =>
    obtain ⟨m'', isEmpty, opener, steps⟩ := ih
    have same : m'.opener = m.opener := by rw [← m.opener_next f.criteria, next]
    exact ⟨m'', isEmpty, opener.trans same,
      .delivered ((stays m).step_of_next next (by simp [Except.map])) steps⟩
  | case3 m e m' next ih =>
    obtain ⟨m'', isEmpty, opener, steps⟩ := ih
    have same : m'.opener = m.opener := by rw [← m.opener_next f.criteria, next]
    exact ⟨m'', isEmpty, opener.trans same,
      .delivered ((stays m).step_of_next next (by simp [Except.map])) steps⟩

/-- Steps deliver all that the merge and the backlog hold. -/
theorem exists_unloads (isRead : f.IsRead) : ∃ results m, m.isEmpty ∧
    m.opener = f.merge.opener ∧
    f.Steps (results.map (Except.map some)) { f with merge := m, backlog := [] } ∧
    Unloads f.criteria f.merge f.backlog results := by
  -- every batch makes the backlog shorter
  induction length : f.backlog.length using Nat.strong_induction_on generalizing f with
  | _ n ih =>
    obtain ⟨m, isEmpty, opener, drained⟩ := isRead.exists_drained
    by_cases waiting : f.backlog = []
    · refine ⟨f.merge.drain f.criteria, m, isEmpty, opener, ?_, ?_⟩
      · rwa [← waiting]
      · rw [waiting]
        exact .last f.merge
    · let g : Feed κ := { f with merge := m }
      have first : g.step = (.again none, g.openBatch) :=
        step_of_backlog ⟨isRead.running, isRead.unfinished⟩ isEmpty waiting
      have shorter : g.openBatch.backlog.length < n := length ▸ Backlog.length_drop_batch_lt waiting
      obtain ⟨results, m', isEmpty', opener', steps, unloads⟩ :=
        ih _ shorter (f := g.openBatch) ⟨isRead.running, isRead.unfinished⟩ rfl
      refine ⟨_, m', isEmpty', ?_, ?_, .batch waiting isEmpty opener unloads⟩
      · rw [opener', ← opener]
        exact m.opener_add f.criteria f.backlog.batch
      · rw [List.map_append]
        exact drained.trans (.again first steps)

end IsRead

end Feed

end RouteFeed
