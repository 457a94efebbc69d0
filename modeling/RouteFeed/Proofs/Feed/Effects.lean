import RouteFeed.Proofs.Feed.Lifecycle

/-!
# What operations do to a feed

A change of the set-up concerns the criteria and what is known of catalogues, and nothing else; so
it is told part by part. A start checks the criteria, then the active catalogue, and then starts
that catalogue; each of the three may fail. A step of a feed that is read delivers from the merge,
or opens a batch, or asks the catalogue. What is proved of operations later rests on these three
accounts.

## Main definitions

* `Operation.interval?`, `Operation.makesLive` — what a change of the set-up says about time
* `Criteria.configured`, `Discovery.configured` — the parts of a feed after a change of the set-up
* `Discovery.Starts`, `Feed.Starts` — all that a start can do
* `Feed.Moves` — all that a step can do
* `Feed.Prepares`, `Feed.Continues` — all that an operation can do before the start and after it

## Main results

* `Feed.perform_of_allocated` — a change of the set-up, part by part
* `Feed.starts_start`, `Feed.moves_step` — starts and steps do nothing else
* `Feed.prepares_perform`, `Feed.continues_perform` — operations do nothing else
* `Feed.next_induction` — what steps keep is kept by a question
-/

namespace RouteFeed

namespace Operation

variable {κ : Type} {op : Operation κ}

/-- The interval that an operation puts in force, if it does. -/
def interval? : Operation κ → Option Interval
  | setInterval interval => some interval
  | setRecent window live now => (Interval.recent window live now).toOption
  | _ => none

/-- The operation makes a feed that is set up live: it asks for this, or puts an interval without
an end in force. -/
def makesLive : Operation κ → Bool
  | setLive => true
  | op => op.interval?.any fun interval => interval.stop?.isNone

theorem makesLive_iff :
    op.makesLive ↔ op = setLive ∨ ∃ interval, op.interval? = some interval ∧
      interval.stop? = none := by
  cases op <;> simp [makesLive, interval?, Option.any_eq_true]

end Operation

/-! ## Changes of the set-up -/

section Configured

variable {κ : Type}

/-- The criteria after an operation on a feed that is set up. -/
def Criteria.configured (c : Criteria) : Operation κ → Criteria
  | .addCriterion kind value => (c.add kind value).toOption.getD c
  | .setInterval interval => c.setInterval interval
  | .setRecent window live now => (c.setRecent window live now).toOption.getD c
  | .setRibPeriod period => c.setRibPeriod period
  | _ => c

/-- The delays after an operation on a feed that is set up. -/
def Backoff.configured (b : Backoff) : Operation κ → Backoff
  | .setBackoff policy => .ofPolicy policy
  | _ => b

variable [Catalogue κ]

/-- The registry after an operation on a feed that is set up. -/
def Registry.configured (r : Registry κ) : Operation κ → Registry κ
  | .select number => (r.select number).toOption.getD r
  | .set number name value => (r.set number name value).toOption.getD r
  | .register k => ((r.register k).map Prod.snd).toOption.getD r
  | _ => r

/-- What is known of catalogues after an operation on a feed that is set up. -/
def Discovery.configured (d : Discovery κ) (op : Operation κ) : Discovery κ :=
  { d with
    registry := d.registry.configured op
    live := d.live || op.makesLive
    backoff := d.backoff.configured op }

theorem Discovery.configured_of_quiet {d : Discovery κ} {op : Operation κ}
    (quiet : op.makesLive = false) (delays : d.backoff.configured op = d.backoff) :
    d.configured op = { d with registry := d.registry.configured op } := by
  rw [configured, quiet, delays, Bool.or_false]

end Configured

/-- An interval that goes back from now has no end just if it is to go on. -/
theorem Interval.stop?_of_recent {window : String} {live : Bool} {now : Seconds}
    {interval : Interval} (made : Interval.recent window live now = .ok interval) :
    interval.stop?.isNone = live := by
  unfold Interval.recent at made
  cases length : readWindow window with
  | error e =>
    rw [length] at made
    cases made
  | ok length' =>
    simp only [length, bind, Except.bind] at made
    cases begun : now.sub? length' with
    | none =>
      rw [begun] at made
      cases made
    | some start =>
      rw [begun] at made
      cases made
      cases live <;> rfl

theorem Criteria.interval?_insert (c : Criteria) (criterion : Criterion) :
    (c.insert criterion).interval? = c.interval? := by
  cases criterion <;> rfl

theorem Criteria.isLive_iff {c : Criteria} :
    c.isLive ↔ ∃ interval, c.interval? = some interval ∧ interval.stop? = none := by
  unfold isLive
  split
  · simp_all
  · simp only [Bool.false_eq_true, false_iff, not_exists, not_and]
    rintro ⟨start, stop?⟩ same rfl
    simp_all

/-- The interval that was set last is in force. -/
theorem Criteria.interval?_configured {κ : Type} (c : Criteria) (op : Operation κ) :
    (c.configured op).interval? = op.interval?.or c.interval? := by
  cases op with
  | addCriterion kind value =>
    simp only [configured, Criteria.add, Operation.interval?, Option.none_or]
    cases Criterion.read kind value with
    | error e => rfl
    | ok criterion => exact c.interval?_insert criterion
  | setRecent window live now =>
    simp only [configured, Criteria.setRecent, Operation.interval?]
    cases Interval.recent window live now <;> rfl
  | _ => rfl

/-- The interval has no end only if it had none before, or if the operation makes a feed live. -/
theorem Criteria.isLive_configured {κ : Type} {c : Criteria} {op : Operation κ}
    (unbounded : (c.configured op).isLive) : c.isLive ∨ op.makesLive := by
  obtain ⟨interval, here, endless⟩ := isLive_iff.mp unbounded
  rw [c.interval?_configured] at here
  rcases Option.or_eq_some_iff.mp here with sets | ⟨-, old⟩
  · exact .inr (Operation.makesLive_iff.mpr (.inr ⟨interval, sets, endless⟩))
  · exact .inl (isLive_iff.mpr ⟨interval, old, endless⟩)

/-- A catalogue that is known after an operation was known before, or has had a setting changed, or
has been added. -/
theorem Registry.mem_configured {κ : Type} [Catalogue κ] {r : Registry κ} {op : Operation κ} {k : κ}
    (known : k ∈ (r.configured op).table) :
    k ∈ r.table ∨ (∃ k₀ ∈ r.table, ∃ name value, Catalogue.set k₀ name value = .ok k) ∨
      op = .register k := by
  cases op with
  | select number =>
    left
    simp only [configured, Registry.select] at known
    cases found : r.get number <;> simpa [found, Except.map, Except.toOption] using known
  | set number name value =>
    simp only [configured, Registry.set] at known
    cases found : r.get number with
    | error e =>
      rw [found] at known
      exact .inl known
    | ok k₀ =>
      have here := List.mem_of_getElem? (get_eq_ok_iff.mp found)
      simp only [found, bind, Except.bind] at known
      cases changed : Catalogue.set k₀ name value with
      | error e =>
        rw [changed] at known
        exact .inl known
      | ok k' =>
        rw [changed] at known
        rcases List.mem_or_eq_of_mem_set known with old | rfl
        · exact .inl old
        · exact .inr (.inl ⟨k₀, here, name, value, changed⟩)
  | register k' =>
    simp only [configured, Registry.register] at known
    cases taken : r.find? (Catalogue.name k') with
    | some number =>
      rw [taken] at known
      exact .inl known
    | none =>
      rw [taken] at known
      rcases List.mem_append.mp known with old | new
      · exact .inl old
      · rw [List.mem_singleton.mp new]
        exact .inr (.inr rfl)
  | _ => exact .inl known

/-! ## Starts -/

/-- What is known of catalogues when a feed is about to be started: criteria without an end make the
feed live. -/
def Discovery.readied {κ : Type} (d : Discovery κ) (c : Criteria) : Discovery κ :=
  { d with live := d.live || c.isLive }

/-- Nothing is changed by this if criteria without an end have made the feed live before. -/
theorem Discovery.readied_eq {κ : Type} {d : Discovery κ} {c : Criteria}
    (lives : c.isLive → d.live) : d.readied c = d := by
  have same : (d.live || c.isLive) = d.live := by
    cases unbounded : c.isLive with
    | false => exact Bool.or_false _
    | true => rw [lives unbounded, Bool.true_or]
  rw [readied, same]

/-- All that a start of the active catalogue can do. -/
inductive Discovery.Starts {κ : Type} [Catalogue κ] (d : Discovery κ) :
    Except FeedError Unit × Discovery κ → Prop where
  /-- No catalogue is active. -/
  | nothing (current : d.registry.current? = none) :
      Starts d (.error (.misconfigured "no data interface selected"), d)
  /-- The active catalogue is not set up. -/
  | invalid {k : κ} {e : FeedError} (current : d.registry.current? = some k)
      (invalid : Catalogue.validate k = .error e) :
      Starts d (.error e, { d with standing := .failing })
  /-- The active catalogue cannot be started. -/
  | failed {k k' : κ} {e : FeedError} (current : d.registry.current? = some k)
      (valid : Catalogue.validate k = .ok ()) (begun : Catalogue.start k = (.error e, k')) :
      Starts d
        (.error e, { d with registry := d.registry.replaceCurrent k', standing := .failing })
  /-- The active catalogue has been started. -/
  | started {k k' : κ} (current : d.registry.current? = some k)
      (valid : Catalogue.validate k = .ok ()) (begun : Catalogue.start k = (.ok (), k')) :
      Starts d (.ok (), { d with registry := d.registry.replaceCurrent k', standing := .on })

theorem Discovery.starts_start {κ : Type} [Catalogue κ] (d : Discovery κ) : d.Starts d.start := by
  unfold Discovery.start
  cases current : d.registry.current? with
  | none => exact .nothing current
  | some k =>
    cases valid : Catalogue.validate k with
    | error e => simpa only [valid] using Starts.invalid current valid
    | ok =>
      simp only [valid]
      cases begun : Catalogue.start k with
      | mk result k' =>
        cases result with
        | error e => exact .failed current valid begun
        | ok => exact .started current valid begun

/-- The account of a start leaves nothing open. -/
theorem Discovery.Starts.eq {κ : Type} [Catalogue κ] {d : Discovery κ}
    {after : Except FeedError Unit × Discovery κ} (starts : d.Starts after) : d.start = after := by
  unfold Discovery.start
  cases starts with
  | nothing current => simp only [current]
  | invalid current invalid => simp only [current, invalid]
  | failed current valid begun => simp only [current, valid, begun]
  | started current valid begun => simp only [current, valid, begun]

/-- A start leaves it as it is whether to wait. -/
theorem Discovery.live_start {κ : Type} [Catalogue κ] (d : Discovery κ) :
    d.start.2.live = d.live := by
  have starts := d.starts_start
  generalize d.start = after at starts
  cases starts <;> rfl

namespace Feed

variable {κ : Type} [Catalogue κ] {f g : Feed κ} {op : Operation κ}

omit [Catalogue κ] in
theorem setLiveIf_eq_with (f : Feed κ) (condition : Bool) : f.setLiveIf condition =
    { f with discovery := { f.discovery with live := f.discovery.live || condition } } := by
  cases condition <;> simp [setLiveIf, Discovery.setLive]

omit [Catalogue κ] in
/-- A change that is computed from a value, which is kept if the computation fails. -/
theorem orKeep_map {α : Type} (change : α → Feed κ) {a : α} (kept : change a = f)
    (result : Except FeedError α) :
    f.orKeep (result.map change) = change (result.toOption.getD a) := by
  cases result with
  | error e => exact kept.symm
  | ok a' => rfl

/-- A change of the set-up, part by part. -/
theorem perform_of_allocated (setUp : op.IsSetUp) (allocated : f.phase = .allocated) :
    f.perform op =
      { f with criteria := f.criteria.configured op, discovery := f.discovery.configured op } := by
  cases op with
  | addCriterion kind value =>
    rw [perform, addCriterion, configure, if_pos allocated, Discovery.configured_of_quiet rfl rfl]
    exact orKeep_map (fun c => { f with criteria := c }) rfl _
  | setInterval interval =>
    rw [perform, setInterval, adjust, if_pos allocated, setLiveIf_eq_with]
    rfl
  | setRecent window live now =>
    rw [perform, setRecent, configure, if_pos allocated]
    cases made : Interval.recent window live now with
    | error e =>
      have quiet : (Operation.setRecent (κ := κ) window live now).makesLive = false := by
        simp [Operation.makesLive, Operation.interval?, made, Except.toOption]
      rw [Discovery.configured_of_quiet quiet rfl]
      simp [Criteria.configured, Criteria.setRecent, made, Except.map, Except.toOption, orKeep,
        Registry.configured]
    | ok interval =>
      have follows : (Operation.setRecent (κ := κ) window live now).makesLive = live := by
        simp [Operation.makesLive, Operation.interval?, made, Except.toOption,
          Interval.stop?_of_recent made]
      simp only [Discovery.configured, follows, Criteria.configured, Criteria.setRecent, made,
        Except.map, orKeep, setLiveIf_eq_with]
      rfl
  | setRibPeriod period =>
    rw [perform, setRibPeriod, adjust, if_pos allocated, Discovery.configured_of_quiet rfl rfl]
    rfl
  | setLive =>
    rw [perform, setLive, adjust, if_pos allocated, setLiveIf_eq_with]
    rfl
  | setBackoff policy =>
    rw [perform, setBackoff, adjust, if_pos allocated, Discovery.configured]
    simp [Operation.makesLive, Operation.interval?, Criteria.configured, Registry.configured,
      Backoff.configured, Discovery.setBackoff]
  | select number =>
    rw [perform, select, configure, if_pos allocated, Discovery.configured_of_quiet rfl rfl]
    exact orKeep_map f.withRegistry rfl _
  | set number name value =>
    rw [perform, set, configure, if_pos allocated, Discovery.configured_of_quiet rfl rfl]
    exact orKeep_map f.withRegistry rfl _
  | register k =>
    rw [perform, register, if_pos allocated, Discovery.configured_of_quiet rfl rfl]
    cases registered : f.discovery.registry.register k with
    | error e => simp [Except.map, orKeep, Registry.configured, registered, Except.toOption,
        Criteria.configured]
    | ok added => simp [Except.map, orKeep, Registry.configured, registered, Except.toOption,
        Criteria.configured, withRegistry]
  | openWith | start | next | stop => exact setUp.elim

/-- All that a start of a feed can do. -/
inductive Starts (f : Feed κ) : Except FeedError Unit × Feed κ → Prop where
  /-- The feed has been started before. -/
  | refused (started : f.phase ≠ .allocated) : Starts f (.error (.wrongPhase "start" f.phase), f)
  /-- The criteria make no sense. -/
  | invalid {e : FeedError} (allocated : f.phase = .allocated)
      (invalid : f.criteria.validate = .error e) : Starts f (.error e, f)
  /-- The active catalogue does not start. -/
  | failed {e : FeedError} {d : Discovery κ} (allocated : f.phase = .allocated)
      (valid : f.criteria.validate = .ok ())
      (begun : (f.discovery.readied f.criteria).start = (.error e, d)) :
      Starts f (.error e, { f with discovery := d })
  /-- The feed has been started. -/
  | started {d : Discovery κ} (allocated : f.phase = .allocated)
      (valid : f.criteria.validate = .ok ())
      (begun : (f.discovery.readied f.criteria).start = (.ok (), d)) :
      Starts f (.ok (), { f with discovery := d, phase := .running })

theorem starts_start (f : Feed κ) : f.Starts f.start := by
  by_cases allocated : f.phase = .allocated
  · rw [start, if_neg (not_not.mpr allocated)]
    cases valid : f.criteria.validate with
    | error e => exact .invalid allocated valid
    | ok =>
      simp only [setLiveIf_eq_with]
      cases begun : (f.discovery.readied f.criteria).start with
      | mk result d =>
        have same := begun
        rw [Discovery.readied] at same
        rw [same]
        cases result with
        | error e => exact .failed allocated valid begun
        | ok => exact .started allocated valid begun
  · rw [start_of_started allocated]
    exact .refused allocated

theorem Starts.eq {after : Except FeedError Unit × Feed κ} (starts : f.Starts after) :
    f.start = after := by
  cases starts with
  | refused started => exact start_of_started started
  | invalid allocated invalid => rw [start, if_neg (not_not.mpr allocated), invalid]
  | failed allocated valid begun =>
    rw [Discovery.readied] at begun
    simp only [start, if_neg (not_not.mpr allocated), valid, setLiveIf_eq_with, begun]
  | started allocated valid begun =>
    rw [Discovery.readied] at begun
    simp only [start, if_neg (not_not.mpr allocated), valid, setLiveIf_eq_with, begun]

/-! ## Steps -/

/-- The feed is read and has nothing left, so that its next step asks the catalogue. -/
structure IsSpent (f : Feed κ) : Prop extends f.IsRead where
  /-- No dump is open, and no failure waits. -/
  idle : f.merge.isEmpty
  /-- No chunk waits. -/
  nothing : f.backlog = []

/-- All that a step can do. -/
inductive Moves (f : Feed κ) : Step × Feed κ → Prop where
  /-- The feed is not read. -/
  | halted (halted : f.phase ≠ .running) :
      Moves f (.delivered (.error (.wrongPhase "get next record" f.phase)), f)
  /-- The end has been reached. -/
  | finished (running : f.phase = .running) (exhausted : f.exhausted) :
      Moves f (.delivered (.ok none), f)
  /-- The merge delivers. -/
  | delivers {r : Except FeedError Record} {m : Merge} (isRead : f.IsRead)
      (next : f.merge.next f.criteria = (r.map some, m)) :
      Moves f (.delivered (r.map some), { f with merge := m })
  /-- Nothing is open, and the next batch is opened. -/
  | opens (isRead : f.IsRead) (idle : f.merge.isEmpty) (waiting : f.backlog ≠ []) :
      Moves f (.again none, f.openBatch)
  /-- The catalogue brings nothing now, and is asked again after a wait. -/
  | waits {delay : Duration} {d : Discovery κ} (spent : f.IsSpent)
      (round : f.discovery.round f.criteria = (.waiting delay, d)) :
      Moves f (.again (some delay), { f with discovery := d })
  /-- The catalogue fails. -/
  | fails {e : FeedError} {d : Discovery κ} (spent : f.IsSpent)
      (round : f.discovery.round f.criteria = (.settled (.error e), d)) :
      Moves f (.delivered (.error e), { f with discovery := d })
  /-- The catalogue has no more chunks. -/
  | ends {d : Discovery κ} (spent : f.IsSpent)
      (round : f.discovery.round f.criteria = (.settled (.ok []), d)) :
      Moves f (.delivered (.ok none), { f with discovery := d, exhausted := true })
  /-- Chunks are admitted, and their first batch is opened. -/
  | finds {chunks : List Chunk} {d : Discovery κ} (spent : f.IsSpent) (some_chunk : chunks ≠ [])
      (round : f.discovery.round f.criteria = (.settled (.ok chunks), d)) :
      Moves f (.again none, { f with discovery := d, backlog := chunks }.openBatch)

theorem moves_discover (spent : f.IsSpent) : f.Moves f.discover := by
  rw [discover]
  cases round : f.discovery.round f.criteria with
  | mk outcome d =>
    cases outcome with
    | waiting delay => exact .waits spent round
    | settled result =>
      cases result with
      | error e => exact .fails spent round
      | ok chunks =>
        cases chunks with
        | nil => exact .ends spent round
        | cons chunk chunks =>
          have found := Moves.finds spent (List.cons_ne_nil chunk chunks) round
          rwa [← List.nil_append (chunk :: chunks), ← spent.nothing] at found

theorem moves_step (f : Feed κ) : f.Moves f.step := by
  by_cases running : f.phase = .running
  swap
  · rw [step_of_not_running running]
    exact .halted running
  cases exhausted : f.exhausted with
  | true =>
    rw [step, if_neg (not_not.mpr running), if_pos exhausted]
    exact .finished running exhausted
  | false =>
    have isRead : f.IsRead := ⟨running, exhausted⟩
    by_cases idle : f.merge.isEmpty
    · by_cases nothing : f.backlog = []
      · rw [isRead.step_of_nothing idle nothing]
        exact moves_discover ⟨isRead, idle, nothing⟩
      · rw [isRead.step_of_backlog idle nothing]
        exact .opens isRead idle nothing
    · obtain ⟨result, m, next, answered⟩ := Merge.exists_next_of_not_isEmpty idle f.criteria
      rw [isRead.step_of_next next answered]
      obtain ⟨r, rfl⟩ := exists_eq_map_some answered
      exact .delivers isRead next

/-- A step leaves the phase and the criteria, and turns to the catalogues only to ask. -/
theorem discovery_step (f : Feed κ) :
    f.step.2.phase = f.phase ∧ f.step.2.criteria = f.criteria ∧
      (f.step.2.discovery = f.discovery ∨
        f.phase = .running ∧ f.step.2.discovery = (f.discovery.round f.criteria).2) := by
  have moves := f.moves_step
  generalize f.step = after at moves
  cases moves with
  | halted | finished | delivers | opens => exact ⟨rfl, rfl, .inl rfl⟩
  | waits spent round => exact ⟨rfl, rfl, .inr ⟨spent.running, by rw [round]⟩⟩
  | fails spent round => exact ⟨rfl, rfl, .inr ⟨spent.running, by rw [round]⟩⟩
  | ends spent round => exact ⟨rfl, rfl, .inr ⟨spent.running, by rw [round]⟩⟩
  | finds spent _ round =>
    refine ⟨rfl, rfl, .inr ⟨spent.running, ?_⟩⟩
    rw [round]
    rfl

/-- What every step keeps is kept by a question, however many steps it makes. -/
theorem next_induction {P : Feed κ → Prop} (kept : ∀ g : Feed κ, P g → P g.step.2) (here : P f)
    (steps : ℕ) : P (f.next steps).2 := by
  induction steps generalizing f with
  | zero => exact here
  | succ steps ih =>
    have after := kept f here
    rw [next]
    cases first : f.step with
    | mk outcome g =>
      rw [first] at after
      cases outcome with
      | delivered => exact after
      | again => exact ih after

/-- A feed that is not read stays as it is when it is asked. -/
theorem next_of_not_running (halted : f.phase ≠ .running) (steps : ℕ) : (f.next steps).2 = f := by
  cases steps with
  | zero => rfl
  | succ steps => rw [next, step_of_not_running halted]

/-! ## Operations -/

/-- All that an operation can do with a feed that has been started. -/
inductive Continues (f : Feed κ) : Operation κ → Feed κ → Prop where
  /-- It is too late to set the feed up, or to start it. -/
  | ignored {op : Operation κ} (late : op.IsSetUp ∨ op = .start) : Continues f op f
  /-- Dumps are opened in another way from now on. -/
  | openWith (opener : Opener) : Continues f (.openWith opener) (f.withOpener opener)
  /-- The feed is read. -/
  | next (steps : ℕ) : Continues f (.next steps) (f.next steps).2
  /-- The feed is stopped. -/
  | stop : Continues f .stop f.stop

theorem continues_perform (started : f.phase ≠ .allocated) (op : Operation κ) :
    f.Continues op (f.perform op) := by
  by_cases setUp : op.IsSetUp
  · rw [perform_of_isSetUp setUp started]
    exact .ignored (.inl setUp)
  cases op with
  | openWith opener => exact .openWith opener
  | start =>
    rw [perform, start_of_started started]
    exact .ignored (.inr rfl)
  | next steps => exact .next steps
  | stop => exact .stop
  | _ => exact absurd trivial setUp

/-- No operation leads back to the set-up. -/
theorem allocated_of_perform (goesOn : (f.perform op).phase = .allocated) :
    f.phase = .allocated := by
  by_contra started
  have continues := continues_perform started op
  generalize f.perform op = g at goesOn continues
  cases continues with
  | ignored | openWith => exact started goesOn
  | next steps =>
    have same : (f.next steps).2.phase = f.phase :=
      next_induction (P := fun g => g.phase = f.phase) (fun g here => g.discovery_step.1.trans here)
        rfl steps
    exact started (same.symm.trans goesOn)
  | stop => exact absurd (f.phase_stop.symm.trans goesOn) (by simp)

/-- All that an operation can do that leaves a feed to be set up further. -/
inductive Prepares (f : Feed κ) : Operation κ → Feed κ → Prop where
  /-- The set-up changes, part by part. -/
  | configured {op : Operation κ} (setUp : op.IsSetUp) : Prepares f op
      { f with criteria := f.criteria.configured op, discovery := f.discovery.configured op }
  /-- Dumps will be opened in another way. -/
  | openWith (opener : Opener) : Prepares f (.openWith opener) (f.withOpener opener)
  /-- The feed cannot be started, since the criteria make no sense. -/
  | invalid {e : FeedError} (invalid : f.criteria.validate = .error e) : Prepares f .start f
  /-- The feed cannot be started, since the active catalogue cannot. -/
  | failed {e : FeedError} {d : Discovery κ} (valid : f.criteria.validate = .ok ())
      (begun : (f.discovery.readied f.criteria).start = (.error e, d)) :
      Prepares f .start { f with discovery := d }
  /-- The feed is not read yet. -/
  | next (steps : ℕ) : Prepares f (.next steps) f

theorem prepares_perform (goesOn : (f.perform op).phase = .allocated) :
    f.Prepares op (f.perform op) := by
  have allocated := allocated_of_perform goesOn
  by_cases setUp : op.IsSetUp
  · rw [perform_of_allocated setUp allocated]
    exact .configured setUp
  cases op with
  | openWith opener => exact .openWith opener
  | start =>
    rw [perform] at goesOn ⊢
    have starts := f.starts_start
    generalize f.start = after at goesOn starts
    cases starts with
    | refused started => exact absurd allocated started
    | invalid _ invalid => exact .invalid invalid
    | failed _ valid begun => exact .failed valid begun
    | started => cases goesOn
  | next steps =>
    rw [perform, next_of_not_running (by simp [allocated])]
    exact .next steps
  | stop => exact absurd (f.phase_stop.symm.trans goesOn) (by simp)
  | _ => exact absurd trivial setUp

end Feed

end RouteFeed
