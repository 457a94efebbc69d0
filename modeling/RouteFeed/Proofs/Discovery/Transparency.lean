import RouteFeed.Catalogue.Replay
import RouteFeed.Proofs.Discovery.Fetching

/-!
# Failures leave no trace

A discovery is called for chunks again and again, and some questions fail. What has been gathered in
the end is what the answers alone add, one after another: neither the failures nor the mode play a
part in it. What a call returns is told by its last question.

## Main definitions

* `FetchCall.TellsLast` — the result of a call tells how its last question went

## Main results

* `Discovery.Listens.settles` — how a call ends
* `Discovery.Fetches.gathering` — calls gather what their answers add
* `Discovery.Fetches.transparent` — two courses with the same answers gather the same
-/

namespace RouteFeed

/-- The result of a call tells how its last question went. -/
structure FetchCall.TellsLast (call : FetchCall) : Prop where
  ok_iff : (∃ chunks, call.result? = some (.ok chunks)) ↔
    call.result?.isSome ∧ ∃ answer, call.outcomes.getLast? = some (.ok answer)
  nonempty : call.live → call.result? ≠ some (.ok [])
  /-- A failure is returned just if the last question failed in this way, and the call did not wait
  for chunks or the failure was not transient. -/
  error_iff : ∀ e, call.result? = some (.error e) ↔
    call.outcomes.getLast? = some (.error e) ∧ (call.live = false ∨ e.isTransient = false)
  /-- A call that has not been settled goes on: it waits for chunks, has asked a question in each
  round, and met transient failures only. -/
  pending : call.result? = none → call.outcomes.length = call.rounds ∧
    ∀ outcome ∈ call.outcomes, call.live ∧ ∀ e, outcome = .error e → e.isTransient

namespace Discovery

variable {κ : Type} [Catalogue κ] {c : Criteria} {d d' : Discovery κ} {calls : List FetchCall}
  {outcome : Except FeedError Answer} {outcomes : List (Except FeedError Answer)}
  {result? : Option (Except FeedError (List Chunk))} {rounds : Nat}

theorem IsStarted.outcome?_ne_none (started : d.IsStarted) : d.outcome? c ≠ none := by
  obtain ⟨k, current⟩ := Option.isSome_iff_exists.mp started.active
  simp [outcome?, started.standing, current]

omit [Catalogue κ] in
theorem GoesOn.of_error {e : FeedError} (goesOn : d.GoesOn c outcome)
    (failed : outcome = .error e) : e.isTransient := by
  subst failed
  exact goesOn.2

/-- A call of a discovery that has been started still waits, or its last question settled it. -/
theorem Listens.settles (listens : d.Listens c rounds outcomes result? d') (started : d.IsStarted) :
    (result? = none ∧ outcomes.length = rounds ∧
        ∀ outcome ∈ outcomes, d.live ∧ ∀ e, outcome = .error e → e.isTransient) ∨
      ∃ (before : List _) (outcome : _) (d₁ : Discovery κ), outcomes = before ++ [outcome] ∧
        d₁.live = d.live ∧ ¬ d₁.GoesOn c outcome ∧ result? = some (d₁.verdict c outcome) := by
  induction listens with
  | waiting => exact .inl ⟨rfl, rfl, by simp⟩
  | refused refused => exact absurd refused started.outcome?_ne_none
  | @settled _ d d' outcome _ _ stops => exact .inr ⟨[], outcome, d, rfl, rfl, stops, rfl⟩
  | @again _ d d₁ d' outcome outcomes result? _ hears goesOn _ ih =>
    rcases ih (hears.started started) with ⟨unsettled, asked, waits⟩ |
      ⟨before, last, d₂, rfl, live, stops, settled⟩
    · refine .inl ⟨unsettled, congrArg (· + 1) asked, List.forall_mem_cons.mpr ⟨?_, ?_⟩⟩
      · exact ⟨goesOn.1, fun e => goesOn.of_error⟩
      · rwa [hears.live] at waits
    · exact .inr ⟨outcome :: before, last, d₂, rfl, live.trans hears.live, stops, settled⟩

/-- A call of a discovery that has been started returns what its last question tells. -/
theorem Listens.tellsLast (listens : d.Listens c rounds outcomes result? d')
    (started : d.IsStarted) : FetchCall.TellsLast ⟨c, d.live, rounds, outcomes, result?⟩ := by
  rcases listens.settles started with ⟨rfl, asked, waits⟩ |
    ⟨before, outcome, d₁, rfl, live, stops, rfl⟩
  · refine ⟨by simp, by simp, fun e => ⟨by simp, ?_⟩, fun _ => ⟨asked, waits⟩⟩
    -- a failure at the end of a call that still waits would have settled it
    rintro ⟨last, fatal⟩
    obtain ⟨waiting, transient⟩ := waits _ (List.mem_of_getLast? last)
    simp [waiting, transient e rfl] at fatal
  · cases outcome with
    | ok answer =>
      refine ⟨?_, ?_, ?_, ?_⟩
      · simp
      · -- a call that waits for chunks would have gone on
        rintro waiting nothing
        exact stops ⟨live.trans waiting, Except.ok.inj (Option.some.inj nothing)⟩
      · simp
      · simp
    | error e =>
      have fatal : d.live = false ∨ e.isTransient = false := by
        rw [← live, ← Bool.not_eq_true, ← Bool.not_eq_true, ← not_and_or]
        exact stops
      refine ⟨?_, ?_, fun e' => ?_, ?_⟩
      · simp
      · simp
      · simp only [verdict_error, List.getLast?_append, List.getLast?_singleton, Option.some_or]
        constructor
        · rintro ⟨⟩
          exact ⟨rfl, fatal⟩
        · rintro ⟨⟨⟩, -⟩
          rfl
      · simp

/-! ## Calls one after another -/

namespace Fetches

theorem tellsLast (fetches : d.Fetches calls d') (started : d.IsStarted) :
    ∀ call ∈ calls, call.TellsLast := by
  induction fetches with
  | nil => simp
  | @call d _ _ c rounds _ ih =>
    have listens := d.listens_fetch c rounds
    exact List.forall_mem_cons.mpr ⟨listens.tellsLast started, ih (listens.started started)⟩
  | between retains _ ih => exact ih (retains.started started)

/-- Calls that sample alike gather what the answers that are heard in them add. -/
theorem gathering_of_period {period? : Option UInt32} (fetches : d.Fetches calls d')
    (fixed : ∀ call ∈ calls, call.criteria.ribPeriod? = period?) (backlog : Backlog) :
    d'.gathering (backlog ++ calls.flatMap FetchCall.found) =
      (d.gathering backlog).absorbAll period? (calls.flatMap FetchCall.answers) := by
  induction fetches generalizing backlog with
  | nil => simp
  | @call d d' calls c' rounds _ ih =>
    -- what the first call finds waits while the others are made
    obtain ⟨rfl, fixed⟩ := List.forall_mem_cons.mp fixed
    rw [List.flatMap_cons, List.flatMap_cons, ← List.append_assoc, Gathering.absorbAll_append,
      ih fixed]
    exact congrArg (Gathering.absorbAll _ · _) ((d.listens_fetch c' rounds).gathering backlog)
  | @between d d₁ d' calls retains _ ih =>
    rw [ih fixed, Discovery.gathering, retains.cursor, retains.admission]
    rfl

/-- Calls gather what the answers that are heard in them add. -/
theorem gathering (fetches : d.Fetches calls d') (fixed : ∀ call ∈ calls, call.criteria = c)
    (backlog : Backlog) :
    d'.gathering (backlog ++ calls.flatMap FetchCall.found) =
      (d.gathering backlog).absorbAll c.ribPeriod? (calls.flatMap FetchCall.answers) :=
  fetches.gathering_of_period (fun call made => by rw [fixed call made]) backlog

/-- **Failures leave no trace.** A discovery has been started, and is called for chunks any number
of times with the same criteria, in one mode or the other. The chunks that are found, the cursor and
what has been admitted are what the answers alone add, one after another; and each call returns what
its last question tells. So in another course with the same answers, whatever fails in it and
whatever its mode, the same is gathered. -/
theorem transparent (fetches : d.Fetches calls d') (started : d.IsStarted)
    (fixed : ∀ call ∈ calls, call.criteria = c) (backlog : Backlog) :
    d'.gathering (backlog ++ calls.flatMap FetchCall.found) =
        (d.gathering backlog).absorbAll c.ribPeriod? (calls.flatMap FetchCall.answers) ∧
      (∀ call ∈ calls, call.TellsLast) ∧
      ∀ {κ' : Type} [Catalogue κ'] {e e' : Discovery κ'} {calls' : List FetchCall},
        e.Fetches calls' e' → (∀ call ∈ calls', call.criteria = c) →
        e.gathering backlog = d.gathering backlog →
        calls'.flatMap FetchCall.answers = calls.flatMap FetchCall.answers →
        e'.gathering (backlog ++ calls'.flatMap FetchCall.found) =
          d'.gathering (backlog ++ calls.flatMap FetchCall.found) := by
  refine ⟨fetches.gathering fixed backlog, fetches.tellsLast started, ?_⟩
  intro κ' _ e e' calls' fetches' fixed' same answers
  rw [fetches'.gathering fixed', fetches.gathering fixed, same, answers]

end Fetches

/-! ## A catalogue that fails between its answers -/

/-- Two chunks of one collector. -/
def sampleChunks : List Chunk :=
  [⟨"ris", "rrc00", .rib, "table", 0, 0⟩, ⟨"ris", "rrc00", .update, "updates", 0, 300⟩]

/-- The catalogue is not reached twice; its second answer repeats a chunk of the first one. -/
def sampleCatalogue : Replay where
  name := "replay"
  description := ""
  settings := []
  script := [.failure (.unavailable "down"), .chunks sampleChunks (some (.ofText "first")),
    .failure (.unavailable "down"), .chunks (sampleChunks.drop 1) (some (.ofText "second"))]
  patience := 1
  starts := []

/-- A discovery that has been started. -/
def sample : Discovery Replay := (ofList [sampleCatalogue]).start.2

/-- In batch mode the four questions make four calls; in live mode they make one that finds both
chunks, and one that still waits. -/
theorem transparent_sample : ∃ (calls calls' : List FetchCall) (d' e' : Discovery Replay),
    sample.Fetches calls d' ∧ sample.Fetches calls' e' ∧
      calls.map (fun call => (call.live, call.result?)) =
        [(false, some (.error (.unavailable "down"))), (false, some (.ok sampleChunks)),
          (false, some (.error (.unavailable "down"))), (false, some (.ok []))] ∧
      calls'.map (fun call => (call.live, call.result?)) =
        [(true, some (.ok sampleChunks)), (true, none)] ∧
      e'.gathering (calls'.flatMap FetchCall.found) =
        d'.gathering (calls.flatMap FetchCall.found) := by
  have batch : sample.Fetches _ _ :=
    .call {} 5 (.call {} 5 (.call {} 5 (.call {} 5 (.nil _))))
  have live : sample.Fetches _ _ :=
    .between (sample.retains_mode true) (.call {} 5 (.call {} 2 (.nil _)))
  have started : sample.IsStarted := ⟨by decide +kernel, by decide +kernel⟩
  have same := (batch.transparent (c := {}) started (by simp [Discovery.call]) []).2.2
    live (by simp [Discovery.call]) rfl (by decide +kernel)
  exact ⟨_, _, _, _, batch, live, by decide +kernel, by decide +kernel, same⟩

end Discovery

end RouteFeed
