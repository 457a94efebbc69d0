import RouteFeed.Proofs.Feed.Ending

/-!
# Attempts that fail

A change of the set-up that fails leaves no trace, and neither does a start that fails, even though
it goes through several steps before it does: it makes a feed live whose interval has no end, and it
turns to the active catalogue. But such a feed has been live since its interval was set, and the
catalogues that every feed knows are as they were when they could not be started. What remains of an
attempt is the standing of the discovery, which the next start overwrites; nothing that can be done
with a feed before depends on it.

So two feeds are compared after what attempts to start them have left is cleared away: they answer
all operations alike. Leaving out all operations that fail leads to the same feed up to this, and to
the same answers.

## Main definitions

* `Operation.Reply`, `Feed.reply`, `Feed.replies` — what operations answer
* `Feed.succeeding` — the operations without those that fail
* `Catalogue.StartsCleanly` — a start that fails leaves the catalogue as it is
* `Feed.cleared` — a feed without what attempts to start it have left

## Main results

* `Feed.reply_cleared`, `Feed.perform_cleared` — what is cleared away is never needed
* `Feed.IsClean.cleared_perform` — an operation that fails leaves nothing else
* `Feed.failures_leave_no_trace` — leaving out what fails
-/

namespace RouteFeed

/-! ## Replies -/

namespace Operation

/-- What an operation answers. -/
inductive Reply where
  /-- The operation has been carried out. -/
  | done
  /-- A catalogue has been added and has this number. -/
  | added (number : ℕ)
  /-- The operation has failed. -/
  | failed (e : FeedError)
  /-- What the feed has returned, if it did in the steps it was given. -/
  | returned (result? : Option (Except FeedError (Option Record)))

namespace Reply

/-- The operation has failed. A failure that a feed returns when it is read is a result. -/
def isFailure : Reply → Bool
  | failed _ => true
  | _ => false

variable {α β : Type}

/-- The reply of an operation that may fail. -/
def of (succeeded : α → Reply) : Except FeedError α → Reply
  | .ok a => succeeded a
  | .error e => failed e

/-- The reply of an operation that may fail and answers nothing else. -/
abbrev check : Except FeedError α → Reply := of fun _ => done

theorem of_map (succeeded : α → Reply) (change : β → α) (result : Except FeedError β) :
    of succeeded (result.map change) = of (succeeded ∘ change) result := by
  cases result <;> rfl

theorem exists_error_of_isFailure {succeeded : α → Reply} {result : Except FeedError α}
    (failed : (of succeeded result).isFailure) (quiet : ∀ a, (succeeded a).isFailure = false) :
    ∃ e, result = .error e := by
  cases result with
  | error e => exact ⟨e, rfl⟩
  | ok a => exact absurd failed (by simp [of, quiet])

end Reply

variable {κ : Type} [Catalogue κ] {c : Criteria} {d : Discovery κ} {op : Operation κ}

/-- What a change of the set-up answers, which depends on the criteria and on the catalogues. -/
def verdict (c : Criteria) (r : Registry κ) : Operation κ → Reply
  | addCriterion kind value => .check (c.add kind value)
  | setRecent window live now => .check (c.setRecent window live now)
  | select number => .check (r.select number)
  | set number name value => .check (r.set number name value)
  | register k => .of (fun added => .added added.1) (r.register k)
  | _ => .done

omit [Catalogue κ] in
/-- A window that cannot be read makes no feed live. -/
theorem makesLive_setRecent_of_error {window : String} {live : Bool} {now : Seconds} {e : FeedError}
    (made : c.setRecent window live now = .error e) :
    (setRecent window live now : Operation κ).makesLive = false := by
  rw [Criteria.setRecent] at made
  cases read : Interval.recent window live now with
  | error e => simp [makesLive, interval?, read, Except.toOption]
  | ok interval =>
    rw [read] at made
    cases made

/-- A change that fails concerns no part of the set-up. -/
theorem configured_of_failed (failed : (op.verdict c d.registry).isFailure) :
    c.configured op = c ∧ d.configured op = d := by
  cases op with
  | addCriterion kind value =>
    obtain ⟨e, made⟩ := Reply.exists_error_of_isFailure failed fun _ => rfl
    rw [Discovery.configured_of_quiet rfl rfl, Criteria.configured, made]
    exact ⟨rfl, rfl⟩
  | setRecent window live now =>
    obtain ⟨e, made⟩ := Reply.exists_error_of_isFailure failed fun _ => rfl
    rw [Discovery.configured_of_quiet (makesLive_setRecent_of_error made) rfl, Criteria.configured,
      made]
    exact ⟨rfl, rfl⟩
  | select | set | register =>
    obtain ⟨e, made⟩ := Reply.exists_error_of_isFailure failed fun _ => rfl
    rw [Discovery.configured_of_quiet rfl rfl, Registry.configured, made]
    exact ⟨rfl, rfl⟩
  | _ => cases failed

end Operation

/-! ## Catalogues -/

/-- Whatever is done with the catalogue, a start that fails leaves it as it is. -/
def Catalogue.StartsCleanly {κ : Type} [Catalogue κ] (k : κ) : Prop :=
  ∀ k' k'' e, Relation.ReflTransGen Becomes k k' → start k' = (.error e, k'') → k'' = k'

namespace Catalogue.StartsCleanly

variable {κ : Type} [Catalogue κ] {k k' : κ}

theorem of_becomes (clean : StartsCleanly k) (change : Becomes k k') : StartsCleanly k' :=
  fun k₁ k₂ e changes => clean k₁ k₂ e (.head change changes)

theorem eq_of_start {e : FeedError} (clean : StartsCleanly k) (begun : start k = (.error e, k')) :
    k' = k :=
  clean k k' e .refl begun

end Catalogue.StartsCleanly

namespace Source.IsBuiltIn

variable {source source' : Source}

theorem eq_of_start {e : FeedError} (known : source.IsBuiltIn)
    (begun : Catalogue.start source = (.error e, source')) : source' = source := by
  cases source with
  | broker | table | singleFile => cases begun
  | database d =>
    -- a database is put into its place only after it has been opened
    have kept : (Catalogue.start (database d)).2 = database d ∨
        (Catalogue.start (database d)).1 = .ok () := by
      change database (Catalogue.start d).2 = _ ∨ (Catalogue.start d).1 = _
      simp only [Catalogue.start]
      cases d.connect with
      | error e => exact .inl rfl
      | ok db => exact .inr rfl
    rw [begun] at kept
    exact kept.resolve_right (by simp)
  | replay => exact known.elim

theorem startsCleanly (known : source.IsBuiltIn) : Catalogue.StartsCleanly source := by
  intro source₁ source₂ e changes
  have known₁ : source₁.IsBuiltIn := by
    induction changes with
    | refl => exact known
    | tail _ change ih => exact ih.of_becomes change
  exact known₁.eq_of_start

end Source.IsBuiltIn

theorem Registry.replaceCurrent_self {κ : Type} {r : Registry κ} {k : κ}
    (current : r.current? = some k) : r.replaceCurrent k = r := by
  obtain ⟨number, active, here⟩ := Option.bind_eq_some_iff.mp current
  obtain ⟨inside, rfl⟩ := List.getElem?_eq_some_iff.mp here
  rw [replaceCurrent, active]
  simp only [List.set_getElem_self, ← active]

/-! ## The standing before the start -/

namespace Discovery

variable {κ : Type} [Catalogue κ] {d d' : Discovery κ}

/-- The discovery with another standing. -/
def withStanding {κ : Type} (d : Discovery κ) (standing : Standing) : Discovery κ :=
  { d with standing := standing }

/-- A start that succeeds does not depend on the standing, and overwrites it. -/
theorem start_withStanding_of_ok (begun : d.start = (.ok (), d')) (standing : Standing) :
    (d.withStanding standing).start = (.ok (), d') := by
  have starts := d.starts_start
  rw [begun] at starts
  have current' : (d.withStanding standing).registry.current? = d.registry.current? := rfl
  cases starts with
  | started current valid begun' =>
    exact (Starts.started (current'.trans current) valid begun').eq

/-- A start that fails does so whatever the standing is, which remains or is overwritten. -/
theorem start_withStanding_of_error {e : FeedError} (begun : d.start = (.error e, d'))
    (standing : Standing) :
    ∃ standing', (d.withStanding standing).start = (.error e, d'.withStanding standing') := by
  have starts := d.starts_start
  rw [begun] at starts
  have current' : (d.withStanding standing).registry.current? = d.registry.current? := rfl
  cases starts with
  | nothing current => exact ⟨standing, (Starts.nothing (current'.trans current)).eq⟩
  | invalid current invalid =>
    exact ⟨.failing, (Starts.invalid (current'.trans current) invalid).eq⟩
  | failed current valid begun' =>
    exact ⟨.failing, (Starts.failed (current'.trans current) valid begun').eq⟩

/-- A start that fails leaves nothing but a standing. -/
theorem eq_withStanding_of_start {e : FeedError}
    (clean : ∀ k ∈ d.registry.table, Catalogue.StartsCleanly k) (begun : d.start = (.error e, d')) :
    ∃ standing, d' = d.withStanding standing := by
  have starts := d.starts_start
  rw [begun] at starts
  cases starts with
  | nothing => exact ⟨d.standing, rfl⟩
  | invalid => exact ⟨.failing, rfl⟩
  | @failed k k' _ current valid begun' =>
    obtain rfl := (clean k (Registry.mem_of_current? current)).eq_of_start begun'
    rw [Registry.replaceCurrent_self current]
    exact ⟨.failing, rfl⟩

end Discovery

namespace Feed

variable {κ : Type} [Catalogue κ] {f g : Feed κ} {op : Operation κ} {ops : List (Operation κ)}

/-- What an operation answers. -/
def reply (f : Feed κ) : Operation κ → Operation.Reply
  | .addCriterion kind value => .check (f.addCriterion kind value)
  | .setRecent window live now => .check (f.setRecent window live now)
  | .select number => .check (f.select number)
  | .set number name value => .check (f.set number name value)
  | .register k => .of (fun added => .added added.1) (f.register k)
  | .start => .check f.start.1
  | .next steps => .returned (f.next steps).1
  | _ => .done

/-- What several operations answer, one after the other. -/
def replies : Feed κ → List (Operation κ) → List Operation.Reply
  | _, [] => []
  | f, op :: ops => f.reply op :: (f.perform op).replies ops

/-- The operations without those that fail. -/
def succeeding : Feed κ → List (Operation κ) → List (Operation κ)
  | _, [] => []
  | f, op :: ops =>
    if (f.reply op).isFailure then (f.perform op).succeeding ops
    else op :: (f.perform op).succeeding ops

/-- The feed with another standing of its discovery. -/
def withStanding {κ : Type} (f : Feed κ) (standing : Standing) : Feed κ :=
  { f with discovery := f.discovery.withStanding standing }

/-- The feed without what attempts to start it have left. -/
def cleared {κ : Type} (f : Feed κ) : Feed κ :=
  if f.phase = .allocated then f.withStanding .off else f

omit [Catalogue κ] in
theorem cleared_of_allocated (allocated : f.phase = .allocated) : f.cleared = f.withStanding .off :=
  if_pos allocated

omit [Catalogue κ] in
theorem cleared_of_started (started : f.phase ≠ .allocated) : f.cleared = f := if_neg started

omit [Catalogue κ] in
theorem cleared_withStanding (allocated : f.phase = .allocated) (standing : Standing) :
    (f.withStanding standing).cleared = f.cleared := by
  rw [cleared_of_allocated allocated]
  exact cleared_of_allocated (f := f.withStanding standing) allocated

omit [Catalogue κ] in
/-- Clearing concerns nothing that can be told from a feed. -/
theorem eq_of_cleared_eq (same : f.cleared = g.cleared) :
    f.criteria = g.criteria ∧ f.discovery.registry = g.discovery.registry ∧ f.isLive = g.isLive ∧
      f.discovery.backoff = g.discovery.backoff ∧ f.phase = g.phase := by
  have parts : ∀ h : Feed κ, h.cleared.criteria = h.criteria ∧
      h.cleared.discovery.registry = h.discovery.registry ∧ h.cleared.isLive = h.isLive ∧
      h.cleared.discovery.backoff = h.discovery.backoff ∧ h.cleared.phase = h.phase := by
    intro h
    by_cases allocated : h.phase = .allocated
    · rw [cleared_of_allocated allocated]
      exact ⟨rfl, rfl, rfl, rfl, rfl⟩
    · rw [cleared_of_started allocated]
      exact ⟨rfl, rfl, rfl, rfl, rfl⟩
  obtain ⟨criteria, registry, live, backoff, phase⟩ := parts f
  obtain ⟨criteria', registry', live', backoff', phase'⟩ := parts g
  rw [same] at criteria registry live backoff phase
  exact ⟨criteria.symm.trans criteria', registry.symm.trans registry', live.symm.trans live',
    backoff.symm.trans backoff', phase.symm.trans phase'⟩

/-- What a change of the set-up answers while the feed is set up. -/
theorem reply_of_allocated (setUp : op.IsSetUp) (allocated : f.phase = .allocated) :
    f.reply op = op.verdict f.criteria f.discovery.registry := by
  cases op with
  | addCriterion | setRecent | select | set =>
    simp only [reply, Feed.addCriterion, Feed.setRecent, Feed.select, Feed.set, configure,
      if_pos allocated, Operation.Reply.of_map]
    rfl
  | register k =>
    simp only [reply, Feed.register, if_pos allocated, Operation.Reply.of_map]
    rfl
  | setInterval | setRibPeriod | setLive | setBackoff => rfl
  | openWith | start | next | stop => exact setUp.elim

/-- A start fails alike, and leads to the same, whatever the standing is. -/
theorem start_withStanding (allocated : f.phase = .allocated) (standing : Standing) :
    (f.withStanding standing).start.1 = f.start.1 ∧
      (f.withStanding standing).start.2.cleared = f.start.2.cleared := by
  -- what a start does is told by the phase, the criteria and the registry
  have starts := f.starts_start
  generalize f.start = after at starts
  cases starts with
  | refused started => exact absurd allocated started
  | invalid _ invalid =>
    have again : (f.withStanding standing).Starts _ := .invalid allocated invalid
    rw [again.eq]
    exact ⟨rfl, cleared_withStanding allocated standing⟩
  | @failed e d _ valid begun =>
    obtain ⟨standing', begun'⟩ := Discovery.start_withStanding_of_error begun standing
    have again : (f.withStanding standing).Starts _ := .failed allocated valid begun'
    rw [again.eq]
    exact ⟨rfl, cleared_withStanding (f := { f with discovery := d }) allocated standing'⟩
  | started _ valid begun =>
    have again : (f.withStanding standing).Starts _ :=
      .started allocated valid (Discovery.start_withStanding_of_ok begun standing)
    rw [again.eq]
    exact ⟨rfl, rfl⟩

theorem next_of_halted (halted : f.phase ≠ .running) (steps : ℕ) : (f.next steps).1 =
    if steps = 0 then none else some (.error (.wrongPhase "get next record" f.phase)) := by
  cases steps with
  | zero => rfl
  | succ steps => rw [next, step_of_not_running halted, if_neg steps.succ_ne_zero]

/-- What is cleared away does not matter for an answer. -/
theorem reply_cleared (f : Feed κ) (op : Operation κ) : f.cleared.reply op = f.reply op := by
  by_cases allocated : f.phase = .allocated
  swap
  · rw [cleared_of_started allocated]
  rw [cleared_of_allocated allocated]
  by_cases setUp : op.IsSetUp
  · rw [reply_of_allocated setUp allocated]
    exact reply_of_allocated (f := f.withStanding .off) setUp allocated
  cases op with
  | openWith | stop => rfl
  | start => rw [reply, (start_withStanding allocated .off).1, reply]
  | next steps =>
    have halted : f.phase ≠ .running := by simp [allocated]
    rw [reply, reply, next_of_halted halted, next_of_halted (f := f.withStanding .off) halted]
    rfl
  | _ => exact absurd trivial setUp

/-- What is cleared away does not matter for what an operation leads to. -/
theorem perform_cleared (f : Feed κ) (op : Operation κ) :
    (f.cleared.perform op).cleared = (f.perform op).cleared := by
  by_cases allocated : f.phase = .allocated
  swap
  · rw [cleared_of_started allocated]
  rw [cleared_of_allocated allocated]
  by_cases setUp : op.IsSetUp
  · rw [perform_of_allocated setUp allocated,
      perform_of_allocated (f := f.withStanding .off) setUp allocated]
    exact cleared_withStanding (f := { f with
      criteria := f.criteria.configured op
      discovery := f.discovery.configured op }) allocated .off
  cases op with
  | openWith opener => exact cleared_withStanding (f := f.withOpener opener) allocated .off
  | start => exact (start_withStanding allocated .off).2
  | next steps =>
    have halted : f.phase ≠ .running := by simp [allocated]
    rw [perform, perform, next_of_not_running halted,
      next_of_not_running (f := f.withStanding .off) halted]
    exact cleared_withStanding allocated .off
  | stop =>
    -- closing the discovery sets its standing, whatever it was
    have onWay : f.phase ≠ .stopped := by simp [allocated]
    have onWay' : (f.withStanding .off).phase ≠ .stopped := onWay
    rw [perform, perform, stop, stop, if_neg onWay, if_neg onWay']
    rfl
  | _ => exact absurd trivial setUp

theorem reply_congr (same : f.cleared = g.cleared) (op : Operation κ) :
    f.reply op = g.reply op := by
  rw [← reply_cleared, same, reply_cleared]

theorem perform_congr (same : f.cleared = g.cleared) (op : Operation κ) :
    (f.perform op).cleared = (g.perform op).cleared := by
  rw [← perform_cleared, same, perform_cleared]

/-- Feeds that are the same when cleared answer all operations alike. -/
theorem replies_congr (same : f.cleared = g.cleared) (ops : List (Operation κ)) :
    f.replies ops = g.replies ops := by
  induction ops generalizing f g with
  | nil => rfl
  | cons op ops ih => rw [replies, replies, reply_congr same, ih (perform_congr same op)]

theorem performAll_congr (same : f.cleared = g.cleared) (ops : List (Operation κ)) :
    (f.performAll ops).cleared = (g.performAll ops).cleared := by
  induction ops generalizing f g with
  | nil => exact same
  | cons op ops ih => exact ih (perform_congr same op)

/-! ## Operations that fail -/

/-- As long as the feed is set up: a start that fails will leave its catalogues as they are, and the
feed is live already if the start would make it so. -/
structure IsClean (f : Feed κ) : Prop where
  catalogues : f.phase = .allocated → ∀ k ∈ f.discovery.registry.table, Catalogue.StartsCleanly k
  live : f.phase = .allocated → f.criteria.isLive → f.isLive

namespace IsClean

theorem around {d : Discovery κ}
    (clean : ∀ k ∈ d.registry.table, Catalogue.StartsCleanly k) (opener : Opener) :
    (around d opener).IsClean :=
  ⟨fun _ => clean, fun _ unbounded => by cases unbounded⟩

/-- An operation that fails leaves nothing but what is cleared away. -/
theorem cleared_perform (clean : f.IsClean) (failed : (f.reply op).isFailure) :
    (f.perform op).cleared = f.cleared := by
  by_cases allocated : f.phase = .allocated
  · by_cases setUp : op.IsSetUp
    · rw [reply_of_allocated setUp allocated] at failed
      obtain ⟨criteria, discovery⟩ := Operation.configured_of_failed failed
      rw [perform_of_allocated setUp allocated, criteria, discovery]
    cases op with
    | start =>
      rw [reply] at failed
      rw [perform]
      have starts := f.starts_start
      generalize f.start = after at failed starts
      cases starts with
      | refused started => exact absurd allocated started
      | invalid => rfl
      | failed _ valid begun =>
        -- the feed was live already, and the catalogue is as it was
        rw [Discovery.readied_eq (clean.live allocated)] at begun
        obtain ⟨standing, rfl⟩ :=
          Discovery.eq_withStanding_of_start (clean.catalogues allocated) begun
        exact cleared_withStanding allocated standing
      | started => cases failed
    | openWith | next | stop => cases failed
    | _ => exact absurd trivial setUp
  · -- what might fail is ignored then
    have continues := continues_perform allocated op
    generalize f.perform op = g at continues
    cases continues with
    | ignored => rfl
    | openWith | next | stop => cases failed

theorem perform (clean : f.IsClean) (added : ∀ k, op = .register k → Catalogue.StartsCleanly k) :
    (f.perform op).IsClean := by
  by_cases goesOn : (f.perform op).phase = .allocated
  swap
  · exact ⟨fun allocated => absurd allocated goesOn, fun allocated => absurd allocated goesOn⟩
  have allocated := allocated_of_perform goesOn
  have catalogues := clean.catalogues allocated
  have live := clean.live allocated
  have prepares := prepares_perform goesOn
  generalize f.perform op = g at prepares
  cases prepares with
  | configured setUp =>
    constructor
    · intro _ k known
      rcases Registry.mem_configured known with old | ⟨k₀, old, name, value, made⟩ | new
      · exact catalogues k old
      · exact (catalogues k₀ old).of_becomes (.set name value made)
      · exact added k new
    · intro _ unbounded
      change (f.discovery.live || op.makesLive) = true
      rw [Bool.or_eq_true]
      exact (Criteria.isLive_configured unbounded).imp live id
  | openWith => exact ⟨fun _ => catalogues, fun _ => live⟩
  | invalid | next => exact clean
  | failed _ begun =>
    rw [Discovery.readied_eq live] at begun
    obtain ⟨standing, rfl⟩ := Discovery.eq_withStanding_of_start catalogues begun
    exact ⟨fun _ => catalogues, fun _ => live⟩

theorem performAll (clean : f.IsClean)
    (added : ∀ k, .register k ∈ ops → Catalogue.StartsCleanly k) : (f.performAll ops).IsClean := by
  induction ops generalizing f with
  | nil => exact clean
  | cons op ops ih =>
    have first : (f.perform op).IsClean :=
      clean.perform fun k same => added k (same ▸ List.mem_cons_self)
    exact ih first fun k here => added k (List.mem_cons_of_mem op here)

/-- Leaving out what fails changes no other answer, and leads to the same. -/
theorem succeeding (clean : f.IsClean)
    (added : ∀ k, .register k ∈ ops → Catalogue.StartsCleanly k) :
    f.replies (f.succeeding ops) = (f.replies ops).filter (fun reply => !reply.isFailure) ∧
      (f.performAll (f.succeeding ops)).cleared = (f.performAll ops).cleared := by
  induction ops generalizing f with
  | nil => exact ⟨rfl, rfl⟩
  | cons op ops ih =>
    have first : (f.perform op).IsClean :=
      clean.perform fun k same => added k (same ▸ List.mem_cons_self)
    obtain ⟨replies, performed⟩ := ih first fun k here => added k (List.mem_cons_of_mem op here)
    rw [Feed.succeeding, Feed.replies]
    by_cases failed : (f.reply op).isFailure
    · -- the others are performed on the feed as it was before the attempt
      have same := clean.cleared_perform failed
      rw [if_pos failed, List.filter_cons_of_neg (by simp [failed]), ← replies_congr same,
        ← performAll_congr same]
      exact ⟨replies, performed⟩
    · rw [if_neg failed, List.filter_cons_of_pos (by simpa using failed), Feed.replies, replies]
      exact ⟨rfl, performed⟩

end IsClean

/-- **Failures leave no trace.** On a feed of catalogues of the kinds that every feed knows,
whatever has been done with it, leave out all operations of a series that fail: the others answer as
they did in the whole series, they lead to the same criteria, catalogues and settings, to the same
active catalogue, the same mode, the same delays and the same phase; and whatever is done with the
feed then is answered alike. -/
theorem failures_leave_no_trace {d : Discovery Source} {opener : Opener}
    {earlier : List (Operation Source)} {f : Feed Source} {ops : List (Operation Source)}
    (known : ∀ source ∈ d.registry.table, source.IsBuiltIn)
    (added : ∀ source, .register source ∈ earlier ++ ops → source.IsBuiltIn)
    (performed : (around d opener).performAll earlier = f) :
    f.replies (f.succeeding ops) = (f.replies ops).filter (fun reply => !reply.isFailure) ∧
      ∃ g h, f.performAll ops = g ∧ f.performAll (f.succeeding ops) = h ∧
        (h.criteria = g.criteria ∧ h.discovery.registry = g.discovery.registry ∧
          h.isLive = g.isLive ∧ h.discovery.backoff = g.discovery.backoff ∧ h.phase = g.phase) ∧
        ∀ later, h.replies later = g.replies later := by
  have new : (around d opener).IsClean :=
    .around (fun k here => (known k here).startsCleanly) opener
  have clean : f.IsClean := by
    rw [← performed]
    exact new.performAll fun k here => (added k (List.mem_append_left ops here)).startsCleanly
  obtain ⟨replies, same⟩ := clean.succeeding fun k here =>
    (added k (List.mem_append_right earlier here)).startsCleanly
  exact ⟨replies, _, _, rfl, rfl, eq_of_cleared_eq same, replies_congr same⟩

/-- A feed is set up, but a kind, a window, a number, a name and three starts are tried in vain on
the way, and a catalogue is added a second time. -/
def triedSetUp : List (Operation Source) :=
  [.select 3, .start, .addCriterion "colour" "red", .setInterval ⟨2000, some 1000⟩, .start,
    .setRecent "soon" true 5000, .setInterval ⟨1000, some 2000⟩, .select 9, .start,
    .set 3 "file" "updates", .register (.singleFile {}), .set 3 "upd-file" "updates"]

/-- Four of these operations succeed, and these alone lead to a feed that can be told from the other
by nothing. -/
theorem failures_leave_no_trace_newFeed : ∃ kept, newFeed.succeeding triedSetUp = kept ∧
    kept = [.select 3, .setInterval ⟨2000, some 1000⟩, .setInterval ⟨1000, some 2000⟩,
      .set 3 "upd-file" "updates"] ∧
    ∀ later, (newFeed.performAll kept).replies later =
      (newFeed.performAll triedSetUp).replies later := by
  have performed : (around newFeed.discovery emptyFileArchive.opener).performAll [] = newFeed := rfl
  have known : ∀ source ∈ newFeed.discovery.registry.table, source.IsBuiltIn := by
    simp [newFeed, ofList, Discovery.ofList, Registry.ofList, Source.builtIn, Source.IsBuiltIn]
  have added : ∀ source, .register source ∈ [] ++ triedSetUp → source.IsBuiltIn := by
    simp [triedSetUp, Source.IsBuiltIn]
  obtain ⟨-, _, _, rfl, rfl, -, later⟩ := failures_leave_no_trace known added performed
  exact ⟨_, rfl, rfl, later⟩

end Feed

end RouteFeed
