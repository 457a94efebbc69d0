import RouteFeed.Proofs.Discovery.Fetching
import RouteFeed.Proofs.Feed.Unloading

/-!
# Asking the catalogue

What a feed in batch mode does when it has delivered all that it has found: it asks the active
catalogue once. Chunks that are admitted go to the backlog, and reading goes on. If none is admitted
the end is reached. A failure is delivered, and changes nothing that the next question depends on.

## Main definitions

* `Feed.Asks` — a feed that reads in batch mode from a catalogue
* `Feed.Fresh` — a feed that has been set up and not been started

## Main results

* `Feed.Asks.discover_of_admitted` and its companions — what a question to the catalogue leads to
* `Feed.Fresh.asks_of_start` — starting a feed
-/

namespace RouteFeed

namespace Feed

variable {κ : Type} [Catalogue κ] {f g : Feed κ} {k k' : κ} {answer : Answer} {e : FeedError}

/-- A feed that reads in batch mode from a catalogue. -/
structure Asks (f : Feed κ) (k : κ) : Prop extends f.IsRead where
  /-- It does not wait for chunks. -/
  batch : f.isLive = false
  /-- Questions may be asked. -/
  started : f.discovery.standing ≠ .off
  /-- The catalogue is the active one. -/
  current : f.discovery.registry.current? = some k

namespace Asks

/-- A question goes to the active catalogue. -/
theorem round_eq {result : Except FeedError Answer} (asks : f.Asks k)
    (query : Catalogue.query k f.criteria f.discovery.cursor = (result, k')) :
    f.discovery.round f.criteria =
      { f.discovery with registry := f.discovery.registry.replaceCurrent k' }.conclude f.criteria
        result :=
  Discovery.round_eq asks.started asks.current query

/-- Chunks that are admitted go to the backlog, and the next batch is opened. -/
theorem discover_of_admitted (asks : f.Asks k)
    (answered : Catalogue.query k f.criteria f.discovery.cursor = (.ok answer, k'))
    {admitted : List Chunk} {admission : Admission} (some_chunk : admitted ≠ [])
    (offered : f.discovery.admission.offerAll f.criteria.ribPeriod? answer.chunks =
      (admitted, admission)) :
    ∃ g : Feed κ, f.discover = (.again none, g.openBatch) ∧ g.Asks k' ∧
      g.criteria = f.criteria ∧ g.merge = f.merge ∧ g.backlog = f.backlog ++ admitted ∧
      g.discovery.cursor = answer.next ∧ g.discovery.admission = admission := by
  have current := Registry.current?_replaceCurrent k' asks.current
  obtain ⟨chunk, chunks, rfl⟩ := List.exists_cons_of_ne_nil some_chunk
  unfold discover
  rw [asks.round_eq answered]
  simp only [Discovery.conclude, Discovery.absorb, offered]
  exact ⟨_, rfl, ⟨⟨asks.running, asks.unfinished⟩, asks.batch, by simp, current⟩, rfl, rfl, rfl,
    rfl, rfl⟩

/-- If no chunk is admitted the end is reached. -/
theorem discover_of_nothing (asks : f.Asks k)
    (answered : Catalogue.query k f.criteria f.discovery.cursor = (.ok answer, k'))
    (nothing : (f.discovery.admission.offerAll f.criteria.ribPeriod? answer.chunks).1 = []) :
    ∃ g : Feed κ, f.discover = (.delivered (.ok none), g) ∧ g.phase = .running ∧ g.exhausted := by
  have batch : f.discovery.live = false := asks.batch
  unfold discover
  rw [asks.round_eq answered]
  simp only [Discovery.conclude, Discovery.absorb, nothing, batch, Bool.false_eq_true, ↓reduceIte]
  exact ⟨_, rfl, asks.running, rfl⟩

theorem discover_of_failure (asks : f.Asks k)
    (failed : Catalogue.query k f.criteria f.discovery.cursor = (.error e, k')) :
    ∃ g : Feed κ, f.discover = (.delivered (.error e), g) ∧ g.Asks k' ∧
      g.criteria = f.criteria ∧ g.merge = f.merge ∧ g.backlog = f.backlog ∧
      g.discovery.cursor = f.discovery.cursor ∧
      g.discovery.admission = f.discovery.admission := by
  have current := Registry.current?_replaceCurrent k' asks.current
  have batch : f.discovery.live = false := asks.batch
  unfold discover
  rw [asks.round_eq failed]
  simp only [Discovery.conclude, batch, Bool.false_eq_true, false_and, ↓reduceIte]
  exact ⟨_, rfl, ⟨⟨asks.running, asks.unfinished⟩, rfl, by simp, current⟩, rfl, rfl, rfl, rfl, rfl⟩

end Asks

/-! ## The start -/

/-- A feed that has been set up and not been started. -/
structure Fresh (f : Feed κ) : Prop where
  /-- It has not been started. -/
  allocated : f.phase = .allocated
  /-- The end has not been reached. -/
  unfinished : f.exhausted = false
  /-- No dump is open. -/
  idle : f.merge.isEmpty
  /-- No chunk waits. -/
  nothing : f.backlog = []
  /-- The catalogue will be asked from the start. -/
  cursor : f.discovery.cursor = .start
  /-- No chunk has been admitted. -/
  admission : f.discovery.admission = {}

namespace Fresh

omit [Catalogue κ] in
theorem ofList (table : List κ) (opener : Opener) : (ofList table opener).Fresh :=
  ⟨rfl, rfl, rfl, rfl, rfl, rfl⟩

omit [Catalogue κ] in
/-- Waiting for chunks or not makes no difference to what has been read. -/
theorem setLiveIf_eq (f : Feed κ) (condition : Bool) :
    (f.setLiveIf condition).merge = f.merge ∧ (f.setLiveIf condition).backlog = f.backlog ∧
      (f.setLiveIf condition).exhausted = f.exhausted ∧
      (f.setLiveIf condition).discovery.cursor = f.discovery.cursor ∧
      (f.setLiveIf condition).discovery.admission = f.discovery.admission := by
  unfold setLiveIf
  cases condition <;> simp [Discovery.setLive]

/-- Starting a feed in batch mode leads to one that asks the active catalogue from its start. -/
theorem asks_of_start (fresh : f.Fresh) (started : f.start = (.ok (), g)) (batch : g.isLive = false)
    (current : g.discovery.registry.current? = some k) :
    g.Asks k ∧ g.merge = f.merge ∧ g.backlog = [] ∧ g.discovery.cursor = .start ∧
      g.discovery.admission = {} := by
  unfold start at started
  cases valid : f.criteria.validate with
  | error e => simp [fresh.allocated, valid] at started
  | ok =>
    -- what the start does to the feed before it turns to the catalogue does not concern reading
    have same := setLiveIf_eq f f.criteria.isLive
    generalize f.setLiveIf f.criteria.isLive = f' at started same
    obtain ⟨merge, backlog, exhausted, cursor, admission⟩ := same
    cases begun : f'.discovery.start with
    | mk result discovery =>
      cases result with
      | error e => simp [fresh.allocated, valid, begun] at started
      | ok =>
        simp only [fresh.allocated, valid, begun, ne_eq, not_true_eq_false, ↓reduceIte,
          Prod.mk.injEq, true_and] at started
        subst started
        have standing := Discovery.standing_of_start begun
        have retains := f'.discovery.retains_start
        rw [begun] at retains
        have unfinished := exhausted.trans fresh.unfinished
        refine ⟨⟨⟨rfl, unfinished⟩, batch, by simp [standing], current⟩, merge, ?_, ?_, ?_⟩
        · exact backlog.trans fresh.nothing
        · exact (retains.cursor.trans cursor).trans fresh.cursor
        · exact (retains.admission.trans admission).trans fresh.admission

end Fresh

end Feed

end RouteFeed
