import RouteFeed.Proofs.Feed.Operations

/-!
# The life of a feed

A feed is set up, then read, then stopped, and never goes back. Only a start that succeeds makes it
one that is read, and only stopping it ends this. Asking for a record fails for being asked in the
wrong phase just when the feed is not read, and starting it just when it has been started before. So
a reader who is told so knows the phase. And from its start on, whatever is tried, the set-up of the
feed stays as it is.

All this holds after any operations on a feed whose catalogues are well behaved and whose dumps end
honestly. The kinds of catalogues that every feed knows and the dumps of an archive are of this
sort.

## Main definitions

* `Phase.rank` — how far a feed has come in its life
* `Feed.LeadsTo` — the phase that an operation leads to

## Main results

* `Feed.isSound_builtIn` — feeds of the catalogues that every feed knows
* `Feed.IsSound.leadsTo_perform` — the phase after one operation
* `Feed.lifecycle` — the life of a feed, after any operations
-/

namespace RouteFeed

/-- How far a feed has come in its life. -/
def Phase.rank : Phase → ℕ
  | allocated => 0
  | running => 1
  | stopped => 2

namespace Feed

variable {κ : Type} [Catalogue κ] {f g : Feed κ} {op : Operation κ} {phase : Phase}

/-- The phase that an operation leads to. -/
inductive LeadsTo (f : Feed κ) : Operation κ → Phase → Prop where
  /-- A start that succeeds makes a feed that is set up one that is read. -/
  | starts (allocated : f.phase = .allocated) (started : f.start.1 = .ok ()) :
      LeadsTo f .start .running
  /-- In whatever phase a feed is stopped, it is stopped then. -/
  | stops : LeadsTo f .stop .stopped
  /-- Any other operation, and a start that fails, leaves the phase as it is. -/
  | stays {op : Operation κ} (notStarted : op = .start → f.start.1 ≠ .ok ())
      (notStopped : op ≠ .stop) : LeadsTo f op f.phase

/-- No operation leads back. -/
theorem LeadsTo.rank_le (leads : f.LeadsTo op phase) : f.phase.rank ≤ phase.rank := by
  cases leads with
  | starts allocated => simp [allocated, Phase.rank]
  | stops => cases f.phase <;> simp [Phase.rank]
  | stays => exact le_rfl

omit [Catalogue κ] in
theorem phase_stop (f : Feed κ) : f.stop.phase = .stopped := by
  unfold stop
  split_ifs with stopped
  · exact stopped
  · rfl

namespace IsSound

theorem leadsTo_perform (sound : f.IsSound) (honest : op.IsHonest) :
    f.LeadsTo op (f.perform op).phase := by
  by_cases setUp : op.IsSetUp
  · rw [(reconfigured_perform setUp honest).phase]
    exact .stays (by rintro rfl; exact setUp.elim) (by rintro rfl; exact setUp.elim)
  cases op with
  | openWith opener => exact .stays (by simp) (by simp)
  | start =>
    rw [Feed.perform]
    by_cases allocated : f.phase = .allocated
    · rcases (sound.start allocated).2.2 with ⟨started, phase⟩ | ⟨failed, phase⟩
      · rw [phase]
        exact .starts allocated started
      · rw [phase, ← allocated]
        exact .stays (fun _ => failed) (by simp)
    · have refused := start_of_started allocated
      rw [refused]
      exact .stays (fun _ => by simp [refused]) (by simp)
  | next steps =>
    rw [Feed.perform, (sound.next steps).1]
    exact .stays (by simp) (by simp)
  | stop =>
    rw [Feed.perform, phase_stop]
    exact .stops
  | _ => exact absurd trivial setUp

theorem rank_le_performAll {ops : List (Operation κ)} (sound : f.IsSound)
    (honest : ∀ op ∈ ops, op.IsHonest) : f.phase.rank ≤ (f.performAll ops).phase.rank := by
  induction ops generalizing f with
  | nil => exact le_rfl
  | cons op ops ih =>
    obtain ⟨first, others⟩ := List.forall_mem_cons.mp honest
    exact (sound.leadsTo_perform first).rank_le.trans (ih (sound.perform first) others)

/-- Once the feed has been started, operations leave its set-up. -/
theorem keepsSetUp_performAll {ops : List (Operation κ)} (sound : f.IsSound)
    (honest : ∀ op ∈ ops, op.IsHonest) (started : f.phase ≠ .allocated) :
    f.KeepsSetUp (f.performAll ops) := by
  induction ops generalizing f with
  | nil => exact .refl f
  | cons op ops ih =>
    obtain ⟨first, others⟩ := List.forall_mem_cons.mp honest
    have moves := (sound.leadsTo_perform first).rank_le
    have started' : (f.perform op).phase ≠ .allocated := by
      intro back
      rw [back] at moves
      cases here : f.phase <;> simp [here, Phase.rank] at started moves
    exact (sound.keepsSetUp_perform started op).trans (ih (sound.perform first) others started')

/-- Asking for a record fails for being asked in the wrong phase just if the feed is not read. -/
theorem returns_wrongPhase_iff (sound : f.IsSound) :
    (∃ e g, e.isWrongPhase ∧ f.Returns (.error e) g) ↔ f.phase ≠ .running := by
  constructor
  · rintro ⟨e, g, wrong, steps, returned⟩ running
    have honest := (sound.next steps).2.2.2 running (.error e) (by rw [returned])
    rw [honest e rfl] at wrong
    cases wrong
  · intro halted
    exact ⟨_, f, rfl, .of_step (step_of_not_running halted)⟩

/-- A start fails for being made in the wrong phase just if the feed has been started before. -/
theorem start_wrongPhase_iff (sound : f.IsSound) :
    (∃ e, e.isWrongPhase ∧ f.start.1 = .error e) ↔ f.phase ≠ .allocated := by
  constructor
  · rintro ⟨e, wrong, failed⟩ allocated
    rw [(sound.start allocated).1 e failed] at wrong
    cases wrong
  · intro started
    exact ⟨_, rfl, by rw [start_of_started started]⟩

end IsSound

/-- A feed of the catalogues that every feed knows, which reads the dumps of an archive. -/
theorem isSound_builtIn (archive : Archive) (service : BrokerService) (now : Seconds) :
    (ofList (Source.builtIn archive service now) archive.opener).IsSound where
  catalogues _ known := Source.wellBehaved_of_mem_builtIn known
  dumps := .of_isEmpty rfl archive.isHonest_opener

/-- **Life of a feed.** After any operations, the next one leads to the phase that it should, and
none leads back; a question and a start fail for being made in the wrong phase just if they are; and
if the feed has been started, the set-up stays whatever else is done. -/
theorem lifecycle {ops : List (Operation κ)} (sound : f.IsSound)
    (honest : ∀ op ∈ ops, op.IsHonest) (performed : f.performAll ops = g) :
    (∀ op : Operation κ, op.IsHonest → g.LeadsTo op (g.perform op).phase) ∧
      ((∃ e h, e.isWrongPhase ∧ g.Returns (.error e) h) ↔ g.phase ≠ .running) ∧
      ((∃ e, e.isWrongPhase ∧ g.start.1 = .error e) ↔ g.phase ≠ .allocated) ∧
      ∀ more : List (Operation κ), (∀ op ∈ more, op.IsHonest) →
        g.phase.rank ≤ (g.performAll more).phase.rank ∧
          (g.phase ≠ .allocated → g.KeepsSetUp (g.performAll more)) := by
  have sound' : g.IsSound := performed ▸ sound.performAll honest
  exact ⟨fun op fair => sound'.leadsTo_perform fair, sound'.returns_wrongPhase_iff,
    sound'.start_wrongPhase_iff, fun more fair =>
      ⟨sound'.rank_le_performAll fair, sound'.keepsSetUp_performAll fair⟩⟩

/-- An archive with one file, which is empty. -/
def emptyFileArchive : Archive := { files := [("updates", .bytes [])] }

/-- A new feed that reads this archive. -/
def newFeed : Feed Source :=
  ofList (Source.builtIn emptyFileArchive (fun _ => none) 0) emptyFileArchive.opener

/-- The file is set, the feed is started, changes are tried, and a record is asked for. -/
def sampleOperations : List (Operation Source) :=
  [.select 3, .set 3 "upd-file" "updates", .setInterval ⟨1000, some 2000⟩, .start,
    .addCriterion "collector" "rrc00", .setLive, .next 3]

/-- Attempts to change the set-up, and the end of the feed's life. -/
def lateOperations : List (Operation Source) :=
  [.set 3 "upd-file" "other", .register (.singleFile {}), .setInterval ⟨0, none⟩, .stop, .start]

/-- The feed is read then: it does not say that it is not, it cannot be started again, and all that
is tried later leaves its set-up. -/
theorem lifecycle_newFeed : ∃ g, newFeed.performAll sampleOperations = g ∧ g.phase = .running ∧
    (¬ ∃ e h, e.isWrongPhase ∧ g.Returns (.error e) h) ∧
    (∃ e, e.isWrongPhase ∧ g.start.1 = .error e) ∧
    g.KeepsSetUp (g.performAll lateOperations) := by
  have sound : newFeed.IsSound := isSound_builtIn _ _ _
  have honest : ∀ op ∈ sampleOperations, op.IsHonest := by
    simp [sampleOperations, Operation.IsHonest]
  have known : Source.singleFile {} ∈ Source.builtIn emptyFileArchive (fun _ => none) 0 := by
    simp [Source.builtIn]
  have honest' : ∀ op ∈ lateOperations, op.IsHonest := by
    simpa [lateOperations, Operation.IsHonest] using Source.wellBehaved_of_mem_builtIn known
  have running : (newFeed.performAll sampleOperations).phase = .running := by decide +kernel
  obtain ⟨-, asked, started, later⟩ := lifecycle sound honest rfl
  exact ⟨_, rfl, running, fun wrong => asked.mp wrong running, started.mpr (by simp [running]),
    (later lateOperations honest').2 (by simp [running])⟩

end Feed

end RouteFeed
