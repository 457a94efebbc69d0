import Mathlib.Logic.Relation
import RouteFeed.Proofs.Feed.Asking

/-!
# Setting a feed up

The set-up of a feed concerns its criteria, its catalogues, its delays, and whether it waits.
Nothing is read by it, and nothing is read either by a start that fails. So a feed is fresh until it
has been started, in whatever way it has been set up.

## Main definitions

* `Feed.SetsUp` — a change of the set-up, or a start that fails

## Main results

* `Feed.Fresh.of_setsUp` — one change
* `Feed.fresh_of_reflTransGen` — several changes of a new feed
-/

namespace RouteFeed.Feed

variable {κ : Type} [Catalogue κ] {f g : Feed κ}

/-- A change of the set-up that is made, or a start that fails. -/
inductive SetsUp : Feed κ → Feed κ → Prop where
  /-- A criterion is added. -/
  | addCriterion {f g : Feed κ} (kind value : String) (made : f.addCriterion kind value = .ok g) :
      SetsUp f g
  /-- The interval is set. -/
  | setInterval (f : Feed κ) (interval : Interval) : SetsUp f (f.setInterval interval)
  /-- The interval is set to the last window. -/
  | setRecent {f g : Feed κ} (window : String) (live : Bool) (now : Seconds)
      (made : f.setRecent window live now = .ok g) : SetsUp f g
  /-- The sampling period of tables is set. -/
  | setRibPeriod (f : Feed κ) (period : UInt32) : SetsUp f (f.setRibPeriod period)
  /-- The feed is made live. -/
  | setLive (f : Feed κ) : SetsUp f f.setLive
  /-- The policy for delays is set. -/
  | setBackoff (f : Feed κ) (policy : BackoffPolicy) : SetsUp f (f.setBackoff policy)
  /-- Another catalogue is made active. -/
  | select {f g : Feed κ} (number : ℕ) (made : f.select number = .ok g) : SetsUp f g
  /-- A setting of a catalogue is given a value. -/
  | set {f g : Feed κ} (number : ℕ) (name value : String) (made : f.set number name value = .ok g) :
      SetsUp f g
  /-- A catalogue is added. -/
  | register {f g : Feed κ} (k : κ) (number : ℕ) (made : f.register k = .ok (number, g)) :
      SetsUp f g
  /-- A start fails. -/
  | start {f g : Feed κ} (e : FeedError) (failed : f.start = (.error e, g)) : SetsUp f g

namespace Fresh

omit [Catalogue κ] in
theorem with_criteria (fresh : f.Fresh) (c : Criteria) : Fresh { f with criteria := c } :=
  { fresh with }

omit [Catalogue κ] in
theorem withRegistry (fresh : f.Fresh) (registry : Registry κ) : (f.withRegistry registry).Fresh :=
  { fresh with }

omit [Catalogue κ] in
theorem setLiveIf (fresh : f.Fresh) (condition : Bool) : (f.setLiveIf condition).Fresh := by
  cases condition with
  | false => exact fresh
  | true => exact { fresh with }

omit [Catalogue κ] in
/-- A fresh feed can be set up. -/
theorem adjust {change : Feed κ → Feed κ} (fresh : f.Fresh) (kept : (change f).Fresh) :
    (f.adjust change).Fresh := by
  rw [Feed.adjust, if_pos fresh.allocated]
  exact kept

omit [Catalogue κ] in
theorem of_configure {change : Feed κ → Except FeedError (Feed κ)} (fresh : f.Fresh)
    (kept : ∀ g, change f = .ok g → g.Fresh) (made : f.configure change = .ok g) : g.Fresh := by
  rw [configure, if_pos fresh.allocated] at made
  exact kept g made

omit [Catalogue κ] in
/-- A change that is computed from a value keeps a feed fresh if it does so for each value. -/
theorem of_map {α : Type} {result : Except FeedError α} {change : α → Feed κ}
    (kept : ∀ a, (change a).Fresh) (g : Feed κ) (made : result.map change = .ok g) : g.Fresh := by
  cases result with
  | error e => cases made
  | ok a =>
    cases made
    exact kept a

theorem of_start_error {e : FeedError} (fresh : f.Fresh) (failed : f.start = (.error e, g)) :
    g.Fresh := by
  have fresh' := fresh.setLiveIf f.criteria.isLive
  simp only [Feed.start, fresh.allocated, ne_eq, not_true_eq_false, ↓reduceIte] at failed
  cases valid : f.criteria.validate with
  | error e =>
    rw [valid] at failed
    cases failed
    exact fresh
  | ok =>
    rw [valid] at failed
    -- the feed may have become live, and the catalogue may have changed
    generalize f.setLiveIf f.criteria.isLive = f' at failed fresh'
    obtain ⟨cursor, admission, -⟩ := f'.discovery.retains_start
    generalize f'.discovery.start = started at failed cursor admission
    obtain ⟨result, discovery⟩ := started
    cases result with
    | ok => cases failed
    | error e =>
      cases failed
      exact { fresh' with
        cursor := cursor.trans fresh'.cursor
        admission := admission.trans fresh'.admission }

/-- A feed stays fresh while it is set up. -/
theorem of_setsUp (fresh : f.Fresh) (change : f.SetsUp g) : g.Fresh := by
  cases change with
  | addCriterion kind value made => exact fresh.of_configure (of_map fresh.with_criteria) made
  | setInterval interval => exact fresh.adjust ((fresh.with_criteria _).setLiveIf _)
  | setRecent window live now made =>
    exact fresh.of_configure (of_map fun c => (fresh.with_criteria c).setLiveIf live) made
  | setRibPeriod period => exact fresh.adjust (fresh.with_criteria _)
  | setLive => exact fresh.adjust (fresh.setLiveIf true)
  | setBackoff policy => exact fresh.adjust { fresh with }
  | select number made => exact fresh.of_configure (of_map fresh.withRegistry) made
  | set number name value made => exact fresh.of_configure (of_map fresh.withRegistry) made
  | register k number made =>
    rw [Feed.register, if_pos fresh.allocated] at made
    cases registered : f.discovery.registry.register k with
    | error e =>
      rw [registered] at made
      cases made
    | ok added =>
      rw [registered] at made
      cases made
      exact fresh.withRegistry _
  | start e failed => exact fresh.of_start_error failed

end Fresh

/-- A new feed is fresh in whatever way it has been set up. -/
theorem fresh_of_reflTransGen {table : List κ} {opener : Opener}
    (changes : Relation.ReflTransGen SetsUp (ofList table opener) f) : f.Fresh := by
  induction changes with
  | refl => exact .ofList table opener
  | tail _ change ih => exact ih.of_setsUp change

end RouteFeed.Feed
