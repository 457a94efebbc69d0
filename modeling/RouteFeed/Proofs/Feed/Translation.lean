import RouteFeed.Proofs.Catalogue.Watched
import RouteFeed.Proofs.Feed.Effects

/-!
# Feeds of translated catalogues

A map between two kinds of catalogues that keeps all that catalogues can do is carried over to
feeds: a feed of the translated catalogues does what the feed does, step by step, and its catalogues
are the translated ones all the way. So catalogues may be replaced by others that do the same and
keep more, say a record of what they are asked, without anything being changed by this.

## Main definitions

* `Registry.map`, `Discovery.map`, `Feed.map`, `Operation.map` — the same with translated catalogues

## Main results

* `Discovery.start_map`, `Discovery.round_map` — the catalogue that is active
* `Feed.step_map`, `Feed.perform_map`, `Feed.performAll_map` — one step, and operations
-/

namespace RouteFeed

section Maps

variable {κ κ' : Type} (φ : κ → κ')

/-- The registry of the translated catalogues. -/
def Registry.map (r : Registry κ) : Registry κ' := ⟨r.table.map φ, r.active?⟩

/-- The discovery in the translated catalogues. -/
def Discovery.map (d : Discovery κ) : Discovery κ' :=
  { registry := d.registry.map φ
    live := d.live
    backoff := d.backoff
    standing := d.standing
    cursor := d.cursor
    admission := d.admission }

/-- The feed of the translated catalogues. -/
def Feed.map (f : Feed κ) : Feed κ' :=
  { criteria := f.criteria
    discovery := f.discovery.map φ
    backlog := f.backlog
    merge := f.merge
    phase := f.phase
    exhausted := f.exhausted }

/-- The operation, with a translated catalogue if one is added. -/
def Operation.map : Operation κ → Operation κ'
  | addCriterion kind value => addCriterion kind value
  | setInterval interval => setInterval interval
  | setRecent window live now => setRecent window live now
  | setRibPeriod period => setRibPeriod period
  | setLive => setLive
  | setBackoff policy => setBackoff policy
  | select number => select number
  | set number name value => set number name value
  | register k => register (φ k)
  | openWith opener => openWith opener
  | start => start
  | next steps => next steps
  | stop => stop

end Maps

variable {κ κ' : Type} {φ : κ → κ'}

theorem Operation.isSetUp_map {op : Operation κ} : (op.map φ).IsSetUp ↔ op.IsSetUp := by
  cases op <;> rfl

/-! ## The registry -/

namespace Registry

theorem current?_map (r : Registry κ) : (r.map φ).current? = r.current?.map φ := by
  unfold current? map
  cases r.active? <;> simp

theorem replaceCurrent_map (r : Registry κ) (k : κ) :
    (r.map φ).replaceCurrent (φ k) = (r.replaceCurrent k).map φ := by
  unfold replaceCurrent map
  cases active : r.active? <;> simp [active]

theorem get_map (r : Registry κ) (number : ℕ) : (r.map φ).get number = (r.get number).map φ := by
  unfold get map
  cases here : r.table[number]? <;> simp [here, Except.map]

theorem select_map (r : Registry κ) (number : ℕ) :
    (r.map φ).select number = (r.select number).map (Registry.map φ) := by
  rw [select, select, get_map]
  cases r.get number <;> rfl

variable [Catalogue κ] [Catalogue κ']

theorem set_map (hom : Catalogue.Hom φ) (r : Registry κ) (number : ℕ) (name value : String) :
    (r.map φ).set number name value = (r.set number name value).map (Registry.map φ) := by
  rw [set, set, get_map]
  cases r.get number with
  | error e => rfl
  | ok k =>
    simp only [Except.map, bind, Except.bind, hom.set]
    cases Catalogue.set k name value with
    | error e => rfl
    | ok k' => simp [map]

theorem find?_map (hom : Catalogue.Hom φ) (r : Registry κ) (name : String) :
    (r.map φ).find? name = r.find? name := by
  have same : ((fun k => decide (Catalogue.name k = name)) ∘ φ) =
      fun k => decide (Catalogue.name k = name) := by
    funext k
    simp only [Function.comp_apply, hom.name]
  simp only [find?, map, List.findIdx?_map, same]

theorem register_map (hom : Catalogue.Hom φ) (r : Registry κ) (k : κ) :
    (r.map φ).register (φ k) = (r.register k).map (Prod.map id (Registry.map φ)) := by
  rw [register, register, find?_map hom, hom.name]
  cases r.find? (Catalogue.name k) with
  | some number => rfl
  | none => simp [Except.map, map]

theorem configured_map (hom : Catalogue.Hom φ) (r : Registry κ) (op : Operation κ) :
    (r.map φ).configured (op.map φ) = (r.configured op).map φ := by
  cases op with
  | select number =>
    simp only [configured, Operation.map, select_map]
    cases r.select number <;> rfl
  | set number name value =>
    simp only [configured, Operation.map, set_map hom]
    cases r.set number name value <;> rfl
  | register k =>
    simp only [configured, Operation.map, register_map hom]
    cases r.register k <;> rfl
  | _ => rfl

end Registry

/-! ## The catalogue that is active -/

namespace Discovery

theorem conclude_map (c : Criteria) (outcome : Except FeedError Answer) (d : Discovery κ) :
    (d.map φ).conclude c outcome = (d.conclude c outcome).map id (Discovery.map φ) := by
  cases outcome with
  | error e =>
    have same : (d.map φ).live = d.live := rfl
    unfold conclude
    simp only [same]
    split_ifs <;> rfl
  | ok answer =>
    unfold conclude absorb
    simp only [map]
    cases (d.admission.offerAll c.ribPeriod? answer.chunks).1 with
    | cons chunk chunks => rfl
    | nil =>
      dsimp only
      split_ifs <;> rfl

variable [Catalogue κ] [Catalogue κ']

theorem start_map (hom : Catalogue.Hom φ) (d : Discovery κ) :
    (d.map φ).start = d.start.map id (Discovery.map φ) := by
  have starts := d.starts_start
  have current' : (d.map φ).registry.current? = d.registry.current?.map φ := d.registry.current?_map
  generalize d.start = after at starts
  cases starts with
  | nothing current =>
    rw [current] at current'
    exact (Starts.nothing current').eq
  | @invalid k e current invalid =>
    rw [current] at current'
    exact (Starts.invalid current' ((hom.validate k).trans invalid)).eq
  | @failed k k' e current valid begun =>
    rw [current] at current'
    have begun' : Catalogue.start (φ k) = (.error e, φ k') := by rw [hom.start, begun]; rfl
    rw [(Starts.failed current' ((hom.validate k).trans valid) begun').eq]
    simp only [map, Registry.replaceCurrent_map, Prod.map, id]
  | @started k k' current valid begun =>
    rw [current] at current'
    have begun' : Catalogue.start (φ k) = (.ok (), φ k') := by rw [hom.start, begun]; rfl
    rw [(Starts.started current' ((hom.validate k).trans valid) begun').eq]
    simp only [map, Registry.replaceCurrent_map, Prod.map, id]

theorem round_map (hom : Catalogue.Hom φ) (c : Criteria) (d : Discovery κ) :
    (d.map φ).round c = (d.round c).map id (Discovery.map φ) := by
  -- either nothing is asked, for the same reason, or the question is translated
  have current' : (d.map φ).registry.current? = d.registry.current?.map φ := d.registry.current?_map
  by_cases off : d.standing = .off
  · have nothing : d.outcome? c = none := if_pos off
    have nothing' : (d.map φ).outcome? c = none := if_pos off
    rw [round_of_outcome?_eq_none nothing, round_of_outcome?_eq_none nothing']
    rfl
  have off' : (d.map φ).standing ≠ .off := off
  cases current : d.registry.current? with
  | none =>
    rw [current] at current'
    have nothing : d.outcome? c = none := by simp [outcome?, current]
    have nothing' : (d.map φ).outcome? c = none := by simp [outcome?, current']
    rw [round_of_outcome?_eq_none nothing, round_of_outcome?_eq_none nothing']
    rfl
  | some k =>
    rw [current] at current'
    cases query : Catalogue.query k c d.cursor with
    | mk outcome k' =>
      have query' : Catalogue.query (φ k) c (d.map φ).cursor = (outcome, φ k') := by
        rw [hom.query]
        exact congrArg (Prod.map id φ) query
      rw [round_eq off current query, round_eq off' current' query', ← conclude_map]
      simp only [map, Registry.replaceCurrent_map]

theorem configured_map (hom : Catalogue.Hom φ) (d : Discovery κ) (op : Operation κ) :
    (d.map φ).configured (op.map φ) = (d.configured op).map φ := by
  have registry := d.registry.configured_map hom op
  have lives : (op.map φ).makesLive = op.makesLive := by cases op <;> rfl
  have delays : d.backoff.configured (op.map φ) = d.backoff.configured op := by cases op <;> rfl
  simp only [configured, map, registry, lives, delays]

end Discovery

/-! ## The feed -/

namespace Feed

variable [Catalogue κ] [Catalogue κ'] {f : Feed κ}

theorem discover_map (hom : Catalogue.Hom φ) (f : Feed κ) :
    (f.map φ).discover = f.discover.map id (Feed.map φ) := by
  have same : (f.map φ).discovery.round (f.map φ).criteria =
      (f.discovery.round f.criteria).map id (Discovery.map φ) := Discovery.round_map hom _ _
  rw [discover, discover, same]
  cases f.discovery.round f.criteria with
  | mk outcome d =>
    cases outcome with
    | waiting delay => rfl
    | settled result =>
      cases result with
      | error e => rfl
      | ok chunks => cases chunks <;> rfl

/-- A step of the feed of the translated catalogues. -/
theorem step_map (hom : Catalogue.Hom φ) (f : Feed κ) :
    (f.map φ).step = f.step.map id (Feed.map φ) := by
  -- both take the same branch, since they differ in their catalogues only
  by_cases running : f.phase = .running
  swap
  · have halted' : (f.map φ).phase ≠ .running := running
    rw [step_of_not_running running, step_of_not_running halted']
    rfl
  have running' : (f.map φ).phase = .running := running
  rw [step, step, if_neg (not_not.mpr running), if_neg (not_not.mpr running')]
  by_cases exhausted : f.exhausted
  · have exhausted' : (f.map φ).exhausted := exhausted
    rw [if_pos exhausted, if_pos exhausted']
    rfl
  have unfinished' : ¬ (f.map φ).exhausted := exhausted
  rw [if_neg exhausted, if_neg unfinished']
  by_cases idle : f.merge.isEmpty
  swap
  · have busy' : ¬ (f.map φ).merge.isEmpty := idle
    rw [if_pos idle, if_pos busy']
    rfl
  have idle' : (f.map φ).merge.isEmpty := idle
  rw [if_neg (not_not.mpr idle), if_neg (not_not.mpr idle')]
  by_cases nothing : f.backlog.isEmpty
  · have nothing' : (f.map φ).backlog.isEmpty := nothing
    rw [if_pos nothing, if_pos nothing']
    exact f.discover_map hom
  · have waiting' : ¬ (f.map φ).backlog.isEmpty := nothing
    rw [if_neg nothing, if_neg waiting']
    rfl

theorem next_map (hom : Catalogue.Hom φ) (f : Feed κ) (steps : ℕ) :
    (f.map φ).next steps = (f.next steps).map id (Feed.map φ) := by
  induction steps generalizing f with
  | zero => rfl
  | succ steps ih =>
    rw [next, next, step_map hom]
    cases f.step with
    | mk outcome g =>
      cases outcome with
      | delivered result => rfl
      | again delay? => exact ih g

theorem start_map (hom : Catalogue.Hom φ) (f : Feed κ) :
    (f.map φ).start = f.start.map id (Feed.map φ) := by
  have begins : ((f.map φ).discovery.readied (f.map φ).criteria).start =
      ((f.discovery.readied f.criteria).start).map id (Discovery.map φ) :=
    (f.discovery.readied f.criteria).start_map hom
  have starts := f.starts_start
  generalize f.start = after at starts
  cases starts with
  | refused started =>
    have starts' : (f.map φ).Starts _ := .refused started
    exact starts'.eq
  | invalid allocated invalid =>
    have starts' : (f.map φ).Starts _ := .invalid allocated invalid
    exact starts'.eq
  | failed allocated valid begun =>
    rw [begun] at begins
    have starts' : (f.map φ).Starts _ := .failed allocated valid begins
    exact starts'.eq
  | started allocated valid begun =>
    rw [begun] at begins
    have starts' : (f.map φ).Starts _ := .started allocated valid begins
    exact starts'.eq

/-- An operation on the feed of the translated catalogues. -/
theorem perform_map (hom : Catalogue.Hom φ) (f : Feed κ) (op : Operation κ) :
    (f.map φ).perform (op.map φ) = (f.perform op).map φ := by
  by_cases setUp : op.IsSetUp
  · have setUp' : (op.map φ).IsSetUp := Operation.isSetUp_map.mpr setUp
    by_cases allocated : f.phase = .allocated
    · have allocated' : (f.map φ).phase = .allocated := allocated
      have criteria : f.criteria.configured (op.map φ) = f.criteria.configured op := by
        cases op <;> rfl
      have discovery := f.discovery.configured_map hom op
      rw [perform_of_allocated setUp allocated, perform_of_allocated setUp' allocated']
      simp only [map, criteria, discovery]
    · have started' : (f.map φ).phase ≠ .allocated := allocated
      rw [perform_of_isSetUp setUp allocated, perform_of_isSetUp setUp' started']
  cases op with
  | openWith opener => rfl
  | start => exact congrArg Prod.snd (f.start_map hom)
  | next steps => exact congrArg Prod.snd (f.next_map hom steps)
  | stop =>
    change (f.map φ).stop = f.stop.map φ
    by_cases stopped : f.phase = .stopped
    · have stopped' : (f.map φ).phase = .stopped := stopped
      rw [stop, stop, if_pos stopped, if_pos stopped']
    · have onWay' : (f.map φ).phase ≠ .stopped := stopped
      rw [stop, stop, if_neg stopped, if_neg onWay']
      rfl
  | _ => exact absurd trivial setUp

theorem performAll_map (hom : Catalogue.Hom φ) (f : Feed κ) (ops : List (Operation κ)) :
    (f.map φ).performAll (ops.map (Operation.map φ)) = (f.performAll ops).map φ := by
  induction ops generalizing f with
  | nil => rfl
  | cons op ops ih =>
    rw [List.map_cons, performAll, List.foldl_cons, perform_map hom]
    exact ih (f.perform op)

end Feed

end RouteFeed
