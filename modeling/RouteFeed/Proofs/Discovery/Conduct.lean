import RouteFeed.Proofs.Catalogue.Conduct
import RouteFeed.Proofs.Discovery.Fetching

/-!
# Discovery in well-behaved catalogues

Rounds ask the active catalogue and put back what the question has made of it. So they leave
everything that was set up: which catalogues there are and which one is active, all settings,
whether to wait, and the policy for delays. If the catalogues are well behaved they stay so, and no
round ends with a failure that is about the phase of a feed.

## Main definitions

* `Registry.Behaves` — all catalogues are well behaved
* `Discovery.KeepsSetUp` — what was set up is as it was before

## Main results

* `Registry.Behaves.set`, `Registry.Behaves.register` — changes of the registry
* `Registry.Behaves.start` — the start
* `Registry.Behaves.round` — one round
-/

namespace RouteFeed

open Relation (ReflTransGen)

variable {κ : Type} {k k' : κ} {number : ℕ}

namespace Registry

variable {r : Registry κ}

theorem get_eq_ok_iff : r.get number = .ok k ↔ r.table[number]? = some k := by
  unfold get
  cases r.table[number]? <;> simp

theorem mem_of_current? (current : r.current? = some k) : k ∈ r.table := by
  obtain ⟨number, -, here⟩ := Option.bind_eq_some_iff.mp current
  exact List.mem_of_getElem? here

theorem numbers_replaceCurrent (r : Registry κ) (k : κ) :
    (r.replaceCurrent k).numbers = r.numbers := by
  unfold replaceCurrent numbers
  cases r.active? <;> simp

theorem active?_replaceCurrent (r : Registry κ) (k : κ) :
    (r.replaceCurrent k).active? = r.active? := by
  unfold replaceCurrent
  cases active : r.active? <;> simp [active]

theorem get_replaceCurrent (current : r.current? = some k) (k' : κ) (number : ℕ) :
    (r.replaceCurrent k').get number =
      if r.active? = some number then .ok k' else r.get number := by
  obtain ⟨place, active, here⟩ := Option.bind_eq_some_iff.mp current
  have inside := (List.getElem?_eq_some_iff.mp here).1
  unfold replaceCurrent get
  rw [active]
  by_cases same : place = number
  · subst same
    simp [inside]
  · simp [same]

variable [Catalogue κ]

/-- All catalogues are well behaved. -/
def Behaves (r : Registry κ) : Prop := ∀ k ∈ r.table, Catalogue.WellBehaved k

namespace Behaves

/-- A well-behaved catalogue may be put into the place of another. -/
theorem replace (behaves : r.Behaves) (behaved : Catalogue.WellBehaved k) (number : ℕ) :
    Behaves { r with table := r.table.set number k } := by
  intro k' known
  rcases List.mem_or_eq_of_mem_set known with old | rfl
  · exact behaves k' old
  · exact behaved

theorem replaceCurrent (behaves : r.Behaves) (behaved : Catalogue.WellBehaved k) :
    (r.replaceCurrent k).Behaves := by
  unfold Registry.replaceCurrent
  cases r.active? with
  | none => exact behaves
  | some number => exact behaves.replace behaved number

theorem select {r' : Registry κ} (behaves : r.Behaves) (made : r.select number = .ok r') :
    r'.Behaves := by
  unfold Registry.select at made
  cases found : r.get number with
  | error e =>
    rw [found] at made
    cases made
  | ok k =>
    rw [found] at made
    cases made
    exact behaves

theorem set {r' : Registry κ} {name value : String} (behaves : r.Behaves)
    (made : r.set number name value = .ok r') : r'.Behaves := by
  unfold Registry.set at made
  cases found : r.get number with
  | error e =>
    rw [found] at made
    cases made
  | ok k =>
    have behaved := behaves k (List.mem_of_getElem? (get_eq_ok_iff.mp found))
    simp only [found, bind, Except.bind] at made
    cases changed : Catalogue.set k name value with
    | error e =>
      rw [changed] at made
      cases made
    | ok k' =>
      rw [changed] at made
      cases made
      exact behaves.replace (behaved.of_becomes (.set name value changed)) number

theorem register {r' : Registry κ} (behaves : r.Behaves) (behaved : Catalogue.WellBehaved k)
    (made : r.register k = .ok (number, r')) : r'.Behaves := by
  unfold Registry.register at made
  cases taken : r.find? (Catalogue.name k) with
  | some _ =>
    rw [taken] at made
    cases made
  | none =>
    rw [taken] at made
    cases made
    intro k' known
    rcases List.mem_append.mp known with old | new
    · exact behaves k' old
    · rwa [List.mem_singleton.mp new]

end Behaves

end Registry

namespace Discovery

variable [Catalogue κ] {d d' d'' : Discovery κ}

/-- What was set up is as it was before, and the catalogues have been asked at most. -/
structure KeepsSetUp (d d' : Discovery κ) : Prop where
  /-- The catalogues have the same numbers. -/
  numbers : d'.registry.numbers = d.registry.numbers
  /-- Each of them is what questions have made of it. -/
  catalogues : ∀ number k, d.registry.get number = .ok k →
    ∃ k', d'.registry.get number = .ok k' ∧ ReflTransGen Catalogue.Asked k k'
  /-- All settings have the same values. -/
  settings : ∀ number, (d'.registry.get number).map Catalogue.settings =
    (d.registry.get number).map Catalogue.settings
  /-- The same catalogue is active. -/
  active : d'.registry.active? = d.registry.active?
  /-- It is the same whether to wait. -/
  live : d'.live = d.live
  /-- Delays follow the same policy. -/
  policy : d'.backoff.policy = d.backoff.policy

namespace KeepsSetUp

/-- Everything may change but the catalogues, whether to wait, and the policy. -/
theorem of_registry_eq (registry : d'.registry = d.registry) (live : d'.live = d.live)
    (policy : d'.backoff.policy = d.backoff.policy) : d.KeepsSetUp d' where
  numbers := by rw [registry]
  catalogues number k found := ⟨k, by rw [registry, found], .refl⟩
  settings number := by rw [registry]
  active := by rw [registry]
  live := live
  policy := policy

theorem refl (d : Discovery κ) : d.KeepsSetUp d := .of_registry_eq rfl rfl rfl

theorem trans (first : d.KeepsSetUp d') (second : d'.KeepsSetUp d'') : d.KeepsSetUp d'' where
  numbers := second.numbers.trans first.numbers
  catalogues number k found := by
    obtain ⟨k', found', asked⟩ := first.catalogues number k found
    obtain ⟨k'', found'', asked'⟩ := second.catalogues number k' found'
    exact ⟨k'', found'', asked.trans asked'⟩
  settings number := (second.settings number).trans (first.settings number)
  active := second.active.trans first.active
  live := second.live.trans first.live
  policy := second.policy.trans first.policy

/-- A question to the active catalogue leaves the set-up. -/
theorem of_asked (current : d.registry.current? = some k) (behaved : Catalogue.WellBehaved k)
    (asked : Catalogue.Asked k k') :
    d.KeepsSetUp { d with registry := d.registry.replaceCurrent k' } where
  numbers := d.registry.numbers_replaceCurrent k'
  catalogues number k₀ found := by
    rw [Registry.get_replaceCurrent current]
    split_ifs with here
    · rw [Registry.current?, here, Option.bind_some, ← Registry.get_eq_ok_iff, found] at current
      cases current
      exact ⟨k', rfl, .single asked⟩
    · exact ⟨k₀, found, .refl⟩
  settings number := by
    rw [Registry.get_replaceCurrent current]
    split_ifs with here
    · rw [Registry.current?, here, Option.bind_some, ← Registry.get_eq_ok_iff] at current
      rw [current]
      exact congrArg Except.ok (behaved.settings_eq (.single asked))
    · rfl
  active := d.registry.active?_replaceCurrent k'
  live := rfl
  policy := rfl

end KeepsSetUp

omit [Catalogue κ] in
/-- A failure of the catalogue is the only one that a question may settle. -/
theorem conclude_spec (c : Criteria) (outcome : Except FeedError Answer) (d : Discovery κ) :
    (d.conclude c outcome).2.registry = d.registry ∧ (d.conclude c outcome).2.live = d.live ∧
      (d.conclude c outcome).2.backoff.policy = d.backoff.policy ∧
      ∀ e, (d.conclude c outcome).1 = .settled (.error e) → outcome = .error e := by
  cases outcome with
  | error e =>
    unfold conclude
    dsimp only
    split_ifs
    · exact ⟨rfl, rfl, rfl, fun _ settled => by cases settled⟩
    · exact ⟨rfl, rfl, rfl, fun _ settled => by cases settled; rfl⟩
  | ok answer =>
    unfold conclude absorb
    dsimp only
    cases (d.admission.offerAll c.ribPeriod? answer.chunks).1 with
    | cons chunk chunks => exact ⟨rfl, rfl, rfl, fun _ settled => by cases settled⟩
    | nil =>
      dsimp only
      split_ifs
      · exact ⟨rfl, rfl, rfl, fun _ settled => by cases settled⟩
      · exact ⟨rfl, rfl, rfl, fun _ settled => by cases settled⟩

/-- A question that has been asked has been put to the active catalogue. -/
theorem registry_round (standing : d.standing ≠ .off) (current : d.registry.current? = some k)
    (c : Criteria) :
    (d.round c).2.registry = d.registry.replaceCurrent (Catalogue.query k c d.cursor).2 := by
  rw [round_eq standing current (Prod.ext rfl rfl)]
  exact (conclude_spec _ _ _).1

end Discovery

namespace Registry.Behaves

variable [Catalogue κ] {d d' : Discovery κ}

/-- The start does not fail as if it were about the phase of the feed, and leaves well-behaved
catalogues. -/
theorem start (behaves : d.registry.Behaves) :
    FailsHonestly d.start.1 ∧ d.start.2.registry.Behaves := by
  unfold Discovery.start
  cases current : d.registry.current? with
  | none => exact ⟨.error rfl, behaves⟩
  | some k =>
    have behaved := behaves k (mem_of_current? current)
    dsimp only
    cases invalid : Catalogue.validate k with
    | error e => exact ⟨.error (behaved.isHonest.validate e invalid), behaves⟩
    | ok =>
      exact ⟨behaved.isHonest.start, behaves.replaceCurrent (behaved.of_becomes (.start k))⟩

/-- A round leaves the set-up and well-behaved catalogues, and does not fail as if it were about the
phase of the feed. -/
theorem round (behaves : d.registry.Behaves) (c : Criteria) :
    d.KeepsSetUp (d.round c).2 ∧ (d.round c).2.registry.Behaves ∧
      ∀ e, (d.round c).1 = .settled (.error e) → e.isWrongPhase = false := by
  have refused : d.KeepsSetUp d ∧ d.registry.Behaves ∧
      ∀ e, Round.settled (.error Discovery.notStarted) = .settled (.error e) →
        e.isWrongPhase = false :=
    ⟨.refl d, behaves, fun e settled => by cases settled; rfl⟩
  by_cases off : d.standing = .off
  · have nothing : d.outcome? c = none := if_pos off
    rwa [Discovery.round_of_outcome?_eq_none nothing]
  cases current : d.registry.current? with
  | none =>
    have nothing : d.outcome? c = none := by simp [Discovery.outcome?, current]
    rwa [Discovery.round_of_outcome?_eq_none nothing]
  | some k =>
    have behaved := behaves k (mem_of_current? current)
    cases query : Catalogue.query k c d.cursor with
    | mk outcome k' =>
      have asked : Catalogue.Asked k k' := ⟨c, d.cursor, congrArg Prod.snd query⟩
      rw [Discovery.round_eq off current query]
      obtain ⟨registry, live, policy, failed⟩ := Discovery.conclude_spec c outcome
        { d with registry := d.registry.replaceCurrent k' }
      refine ⟨.trans (.of_asked current behaved asked) (.of_registry_eq registry live policy), ?_,
        fun e settled => ?_⟩
      · rw [registry]
        exact behaves.replaceCurrent (behaved.of_becomes (.query asked))
      · have failure := (congrArg Prod.fst query).trans (failed e settled)
        exact behaved.isHonest.query c d.cursor e failure

end Registry.Behaves

end RouteFeed
