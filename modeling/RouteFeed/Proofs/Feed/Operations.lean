import RouteFeed.Proofs.Discovery.Conduct
import RouteFeed.Proofs.Feed.Isolation
import RouteFeed.Proofs.Merge.Honesty

/-!
# Operations on a feed

Everything that can be done with a feed: it can be set up, started, asked for the next record and
stopped, in any order and with any arguments. A change of the set-up that fails leaves the feed as
it is. Of all operations only the changes of the set-up and the start touch the set-up, and once the
feed has been started or stopped they do nothing.

## Main definitions

* `Operation`, `Feed.perform`, `Feed.performAll` — operations, one and several
* `Feed.IsSound` — the catalogues of a feed and its dumps do not fail as if they were the feed
* `Feed.KeepsSetUp` — what was set up is as it was before

## Main results

* `Feed.IsSound.step`, `Feed.IsSound.next` — one step, and one question
* `Feed.IsSound.performAll` — operations keep a feed sound
* `Feed.IsSound.keepsSetUp_perform` — after the start the set-up stays
-/

namespace RouteFeed

/-- What may be done with a feed. -/
inductive Operation (κ : Type) where
  /-- The criterion that a kind and a value write is added. -/
  | addCriterion (kind value : String)
  /-- The interval is set. -/
  | setInterval (interval : Interval)
  /-- The interval is set to the last window before `now`. -/
  | setRecent (window : String) (live : Bool) (now : Seconds)
  /-- The sampling period of tables is set. -/
  | setRibPeriod (period : UInt32)
  /-- The feed is made live. -/
  | setLive
  /-- The policy for delays is set. -/
  | setBackoff (policy : BackoffPolicy)
  /-- Another catalogue is made active. -/
  | select (number : ℕ)
  /-- A setting of a catalogue is given a value. -/
  | set (number : ℕ) (name value : String)
  /-- A catalogue is added. -/
  | register (k : κ)
  /-- Dumps are opened in another way from now on. -/
  | openWith (opener : Opener)
  /-- The feed is started. -/
  | start
  /-- The feed is asked for the next record, and makes at most so many steps. -/
  | next (steps : ℕ)
  /-- The feed is stopped. -/
  | stop

namespace Operation

variable {κ : Type}

/-- The operation changes the set-up of a feed. -/
def IsSetUp : Operation κ → Prop
  | openWith _ | start | next _ | stop => False
  | _ => True

variable [Catalogue κ]

/-- A catalogue that is added is well behaved, and dumps that will be opened end honestly. -/
def IsHonest : Operation κ → Prop
  | register k => Catalogue.WellBehaved k
  | openWith opener => opener.IsHonest
  | _ => True

end Operation

theorem Criteria.validate_failsHonestly (c : Criteria) : FailsHonestly c.validate := by
  unfold validate
  split
  · exact .error rfl
  · exact .ok ()
  · split_ifs
    · exact .error rfl
    · exact .ok ()

namespace Feed

variable {κ : Type} {f g h : Feed κ}

/-- The feed after a change that may fail; one that fails leaves it as it is. -/
def orKeep (f : Feed κ) : Except FeedError (Feed κ) → Feed κ
  | .ok g => g
  | .error _ => f

variable [Catalogue κ] {op : Operation κ} {outcome : Step}

/-- The feed after an operation. -/
def perform (f : Feed κ) : Operation κ → Feed κ
  | .addCriterion kind value => f.orKeep (f.addCriterion kind value)
  | .setInterval interval => f.setInterval interval
  | .setRecent window live now => f.orKeep (f.setRecent window live now)
  | .setRibPeriod period => f.setRibPeriod period
  | .setLive => f.setLive
  | .setBackoff policy => f.setBackoff policy
  | .select number => f.orKeep (f.select number)
  | .set number name value => f.orKeep (f.set number name value)
  | .register k => f.orKeep ((f.register k).map Prod.snd)
  | .openWith opener => f.withOpener opener
  | .start => f.start.2
  | .next steps => (f.next steps).2
  | .stop => f.stop

/-- The feed after several operations, one after the other. -/
def performAll (f : Feed κ) (ops : List (Operation κ)) : Feed κ := ops.foldl perform f

/-- The catalogues are well behaved, and the dumps end honestly. -/
structure IsSound (f : Feed κ) : Prop where
  catalogues : f.discovery.registry.Behaves
  dumps : f.merge.IsHonest

/-- What was set up is as it was before, and the catalogues have been asked at most. -/
structure KeepsSetUp (f g : Feed κ) : Prop extends f.discovery.KeepsSetUp g.discovery where
  /-- The criteria are the same. -/
  criteria : g.criteria = f.criteria

theorem KeepsSetUp.refl (f : Feed κ) : f.KeepsSetUp f := ⟨.refl f.discovery, rfl⟩

theorem KeepsSetUp.trans (first : f.KeepsSetUp g) (second : g.KeepsSetUp h) : f.KeepsSetUp h :=
  ⟨first.toKeepsSetUp.trans second.toKeepsSetUp, second.criteria.trans first.criteria⟩

/-! ## Set-up -/

/-- A change of the set-up leaves everything else: the phase, the dumps, and whether the catalogues
are well behaved. -/
structure Reconfigured (f g : Feed κ) : Prop where
  phase : g.phase = f.phase
  merge : g.merge = f.merge
  catalogues : f.discovery.registry.Behaves → g.discovery.registry.Behaves

namespace Reconfigured

theorem refl (f : Feed κ) : f.Reconfigured f := ⟨rfl, rfl, id⟩

theorem with_criteria (f : Feed κ) (c : Criteria) : f.Reconfigured { f with criteria := c } :=
  ⟨rfl, rfl, id⟩

theorem withRegistry {r : Registry κ} (kept : f.discovery.registry.Behaves → r.Behaves) :
    f.Reconfigured (f.withRegistry r) := ⟨rfl, rfl, kept⟩

theorem setLiveIf (changed : f.Reconfigured g) (condition : Bool) :
    f.Reconfigured (g.setLiveIf condition) := by
  cases condition with
  | false => exact changed
  | true => exact ⟨changed.phase, changed.merge, changed.catalogues⟩

theorem adjust {change : Feed κ → Feed κ} (changed : f.Reconfigured (change f)) :
    f.Reconfigured (f.adjust change) := by
  unfold Feed.adjust
  split_ifs
  · exact changed
  · exact .refl f

theorem orKeep {result : Except FeedError (Feed κ)}
    (changed : ∀ g, result = .ok g → f.Reconfigured g) : f.Reconfigured (f.orKeep result) := by
  cases result with
  | ok g => exact changed g rfl
  | error e => exact .refl f

theorem orKeep_configure {change : Feed κ → Except FeedError (Feed κ)}
    (changed : ∀ g, change f = .ok g → f.Reconfigured g) :
    f.Reconfigured (f.orKeep (f.configure change)) := by
  unfold configure
  split_ifs
  · exact orKeep changed
  · exact .refl f

theorem of_map {α : Type} {result : Except FeedError α} {change : α → Feed κ}
    (changed : ∀ a, result = .ok a → f.Reconfigured (change a)) (g : Feed κ)
    (made : result.map change = .ok g) : f.Reconfigured g := by
  cases result with
  | error e => cases made
  | ok a =>
    cases made
    exact changed a rfl

end Reconfigured

theorem reconfigured_perform (setUp : op.IsSetUp) (honest : op.IsHonest) :
    f.Reconfigured (f.perform op) := by
  cases op with
  | addCriterion kind value =>
    exact .orKeep_configure (.of_map fun c _ => .with_criteria f c)
  | setInterval interval =>
    rw [perform, Feed.setInterval]
    exact .adjust (.setLiveIf (.with_criteria f (f.criteria.setInterval interval)) _)
  | setRecent window live now =>
    exact .orKeep_configure (.of_map fun c _ => .setLiveIf (.with_criteria f c) live)
  | setRibPeriod period =>
    rw [perform, Feed.setRibPeriod]
    exact .adjust (.with_criteria f (f.criteria.setRibPeriod period))
  | setLive => exact .adjust (.setLiveIf (.refl f) _)
  | setBackoff policy =>
    rw [perform, Feed.setBackoff]
    exact .adjust ⟨rfl, rfl, id⟩
  | select number =>
    exact .orKeep_configure (.of_map fun r made => .withRegistry fun behaves => behaves.select made)
  | set number name value =>
    exact .orKeep_configure (.of_map fun r made => .withRegistry fun behaves => behaves.set made)
  | register k =>
    refine .orKeep (.of_map fun added made => ?_)
    unfold Feed.register at made
    split_ifs at made
    cases registered : f.discovery.registry.register k with
    | error e =>
      rw [registered] at made
      cases made
    | ok added =>
      rw [registered] at made
      cases made
      exact .withRegistry fun behaves => behaves.register honest registered
  | openWith | start | next | stop => exact setUp.elim

/-- Once the feed has been started, changes of the set-up do nothing. -/
theorem perform_of_isSetUp (setUp : op.IsSetUp) (started : f.phase ≠ .allocated) :
    f.perform op = f := by
  cases op with
  | addCriterion | setRecent | select | set =>
    simp only [perform, Feed.addCriterion, Feed.setRecent, Feed.select, Feed.set, configure,
      started, ↓reduceIte, orKeep]
  | setInterval | setRibPeriod | setLive | setBackoff => exact if_neg started
  | register k => simp only [perform, Feed.register, started, ↓reduceIte, Except.map, orKeep]
  | openWith | start | next | stop => exact setUp.elim

/-! ## The start -/

/-- A feed that has been started cannot be started. -/
theorem start_of_started (started : f.phase ≠ .allocated) :
    f.start = (.error (.wrongPhase "start" f.phase), f) := if_pos started

/-- A start succeeds, and the feed is read from then on, or it fails, and the feed can be set up
further. -/
theorem IsSound.start (sound : f.IsSound) (allocated : f.phase = .allocated) :
    FailsHonestly f.start.1 ∧ f.start.2.IsSound ∧
      (f.start.1 = .ok () ∧ f.start.2.phase = .running ∨
        f.start.1 ≠ .ok () ∧ f.start.2.phase = .allocated) := by
  unfold Feed.start
  rw [if_neg (not_not.mpr allocated)]
  cases invalid : f.criteria.validate with
  | error e =>
    exact ⟨.error (f.criteria.validate_failsHonestly e invalid), sound, .inr ⟨by simp, allocated⟩⟩
  | ok =>
    -- the feed may have become live before it turns to the catalogue
    have changed : f.Reconfigured (f.setLiveIf f.criteria.isLive) := .setLiveIf (.refl f) _
    generalize f.setLiveIf f.criteria.isLive = f' at changed
    obtain ⟨honest, behaves⟩ := (changed.catalogues sound.catalogues).start
    have dumps : f'.merge.IsHonest := changed.merge ▸ sound.dumps
    dsimp only
    cases started : f'.discovery.start with
    | mk result discovery =>
      rw [started] at honest behaves
      cases result with
      | ok => exact ⟨honest, ⟨behaves, dumps⟩, .inl ⟨rfl, rfl⟩⟩
      | error e =>
        exact ⟨honest, ⟨behaves, dumps⟩, .inr ⟨by simp, changed.phase.trans allocated⟩⟩

/-! ## Reading -/

/-- What a step of a sound feed may do: the phase and the set-up stay, the feed stays sound, and if
it is read, nothing is delivered that says it is not. -/
structure Proceeds (f : Feed κ) (outcome : Step) (g : Feed κ) : Prop where
  phase : g.phase = f.phase
  setUp : f.KeepsSetUp g
  sound : g.IsSound
  honest : f.phase = .running → ∀ result, outcome = .delivered result → FailsHonestly result

/-- A feed that is not read says so, and stays as it is. -/
theorem step_of_not_running (halted : f.phase ≠ .running) :
    f.step = (.delivered (.error (.wrongPhase "get next record" f.phase)), f) := if_pos halted

namespace IsSound

theorem openBatch (sound : f.IsSound) : f.Proceeds (.again none) f.openBatch where
  phase := rfl
  setUp := ⟨.refl f.discovery, rfl⟩
  sound := ⟨sound.catalogues, sound.dumps.add f.criteria f.backlog.batch⟩
  honest _ _ delivered := by cases delivered

theorem discover (sound : f.IsSound) : f.Proceeds f.discover.1 f.discover.2 := by
  obtain ⟨setUp, behaves, failed⟩ := sound.catalogues.round f.criteria
  unfold Feed.discover
  cases asked : f.discovery.round f.criteria with
  | mk round discovery =>
    rw [asked] at setUp behaves failed
    have sound' : IsSound { f with discovery := discovery } := ⟨behaves, sound.dumps⟩
    cases round with
    | waiting delay => exact ⟨rfl, ⟨setUp, rfl⟩, sound', fun _ _ delivered => by cases delivered⟩
    | settled result =>
      cases result with
      | error e =>
        refine ⟨rfl, ⟨setUp, rfl⟩, sound', fun _ _ delivered => ?_⟩
        cases delivered
        exact .error (failed e rfl)
      | ok chunks =>
        cases chunks with
        | nil =>
          refine ⟨rfl, ⟨setUp, rfl⟩, ⟨behaves, sound.dumps⟩, fun _ _ delivered => ?_⟩
          cases delivered
          exact .ok none
        | cons chunk chunks =>
          exact ⟨rfl, ⟨setUp, rfl⟩, ⟨behaves, sound.dumps.add f.criteria _⟩,
            fun _ _ delivered => by cases delivered⟩

theorem step (sound : f.IsSound) : f.Proceeds f.step.1 f.step.2 := by
  unfold Feed.step
  split_ifs with halted exhausted idle nothing
  · exact ⟨rfl, .refl f, sound, fun running => absurd running halted⟩
  · refine ⟨rfl, .refl f, sound, fun _ _ delivered => ?_⟩
    cases delivered
    exact .ok none
  · exact sound.discover
  · exact sound.openBatch
  · cases next : f.merge.next f.criteria with
    | mk result m =>
      obtain ⟨honest, dumps⟩ := sound.dumps.next next
      refine ⟨rfl, ⟨.refl f.discovery, rfl⟩, ⟨sound.catalogues, dumps⟩, fun _ _ delivered => ?_⟩
      cases delivered
      exact honest

/-- A question leaves the phase and the set-up, however many steps it makes. -/
theorem next (sound : f.IsSound) (steps : ℕ) :
    (f.next steps).2.phase = f.phase ∧ f.KeepsSetUp (f.next steps).2 ∧ (f.next steps).2.IsSound ∧
      (f.phase = .running →
        ∀ result, (f.next steps).1 = some result → FailsHonestly result) := by
  -- a step that delivers nothing leaves a sound feed in the same phase, so it is read as before
  induction steps generalizing f with
  | zero => exact ⟨rfl, .refl f, sound, fun _ _ returned => by cases returned⟩
  | succ steps ih =>
    have proceeds := sound.step
    rw [Feed.next]
    cases first : f.step with
    | mk outcome g =>
      rw [first] at proceeds
      cases outcome with
      | delivered result =>
        refine ⟨proceeds.phase, proceeds.setUp, proceeds.sound, fun running _ returned => ?_⟩
        cases returned
        exact proceeds.honest running result rfl
      | again delay? =>
        obtain ⟨phase, setUp, sound', honest⟩ := ih proceeds.sound
        exact ⟨phase.trans proceeds.phase, proceeds.setUp.trans setUp, sound',
          fun running => honest (proceeds.phase.trans running)⟩

/-! ## Several operations -/

theorem stop (sound : f.IsSound) : f.stop.IsSound := by
  unfold Feed.stop
  split_ifs
  · exact sound
  · exact ⟨sound.catalogues, sound.dumps.clear⟩

/-- Operations keep a feed sound. -/
theorem perform (sound : f.IsSound) (honest : op.IsHonest) : (f.perform op).IsSound := by
  by_cases setUp : op.IsSetUp
  · have changed := reconfigured_perform setUp honest (f := f)
    exact ⟨changed.catalogues sound.catalogues, changed.merge ▸ sound.dumps⟩
  cases op with
  | openWith opener => exact ⟨sound.catalogues, sound.dumps.withOpener honest⟩
  | start =>
    by_cases allocated : f.phase = .allocated
    · exact (sound.start allocated).2.1
    · rw [Feed.perform, start_of_started allocated]
      exact sound
  | next steps => exact (sound.next steps).2.2.1
  | stop => exact sound.stop
  | _ => exact absurd trivial setUp

theorem performAll {ops : List (Operation κ)} (sound : f.IsSound)
    (honest : ∀ op ∈ ops, op.IsHonest) : (f.performAll ops).IsSound := by
  induction ops generalizing f with
  | nil => exact sound
  | cons op ops ih =>
    obtain ⟨first, others⟩ := List.forall_mem_cons.mp honest
    exact ih (sound.perform first) others

/-- Once the feed has been started, no operation touches the set-up. -/
theorem keepsSetUp_perform (sound : f.IsSound) (started : f.phase ≠ .allocated)
    (op : Operation κ) : f.KeepsSetUp (f.perform op) := by
  by_cases setUp : op.IsSetUp
  · rw [perform_of_isSetUp setUp started]
    exact .refl f
  cases op with
  | openWith opener => exact ⟨.refl f.discovery, rfl⟩
  | start =>
    rw [Feed.perform, start_of_started started]
    exact .refl f
  | next steps => exact (sound.next steps).2.1
  | stop =>
    rw [Feed.perform, Feed.stop]
    split_ifs
    · exact .refl f
    · exact ⟨.of_registry_eq rfl rfl rfl, rfl⟩
  | _ => exact absurd trivial setUp

end IsSound

end Feed

end RouteFeed
