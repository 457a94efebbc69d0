import RouteFeed.Proofs.Discovery.Transparency
import RouteFeed.Proofs.Feed.Questions

/-!
# Who is asked

A discovery takes commands in any order: catalogues are registered, set up and made active, the
active one is started, chunks are fetched, the discovery is closed. A fetch is refused, and changes
nothing, unless there has been a start since the last closing. But the discovery remembers neither
how that start went nor which catalogue it was for. So a fetch asks the catalogue that is active
now, and this one was started in all cases but two: if the last start failed, and if another
catalogue was active then.

## Main definitions

* `Discovery.Command`, `Discovery.performAll` — commands
* `Discovery.LastStart` — what the last start has led to
* `Discovery.AsksOnly` — one catalogue is asked, and no other one

## Main results

* `Registry.configured_cases` — all that becomes of the registry
* `Discovery.lastStart_concat_iff` — one command more
* `Discovery.follows_performAll` — when a fetch is refused
* `Discovery.IsReady.fetch` — who is asked when it is not refused
* `Discovery.asks_once_started` — any commands, and then a fetch
-/

namespace RouteFeed

/-! ## The active catalogue -/

namespace Registry

variable {κ : Type} {r : Registry κ}

/-- If a catalogue is active, it is one that there is. -/
def IsValid (r : Registry κ) : Prop := ∀ number, r.active? = some number → number < r.table.length

theorem isValid_ofList (table : List κ) : (ofList table).IsValid := by
  intro number active
  cases table with
  | nil => simp [ofList] at active
  | cons k table =>
    obtain rfl : 0 = number := by simpa [ofList] using active
    exact Nat.succ_pos _

theorem IsValid.replaceCurrent (valid : r.IsValid) (k : κ) : (r.replaceCurrent k).IsValid := by
  intro number active
  rw [active?_replaceCurrent] at active
  rw [table_replaceCurrent active, List.length_set]
  exact valid number active

theorem IsValid.exists_current? (valid : r.IsValid) {number : ℕ}
    (active : r.active? = some number) : ∃ k, r.table[number]? = some k ∧ r.current? = some k := by
  have here := List.getElem?_eq_getElem (valid number active)
  exact ⟨_, here, current?_eq_some active here⟩

variable [Catalogue κ]

/-- All that an operation can do to the registry: nothing, or it makes another catalogue active,
changes one, or adds one, which becomes active if none is. -/
theorem configured_cases (r : Registry κ) (op : Operation κ) : r.configured op = r ∨
    (∃ number < r.table.length, r.configured op = { r with active? := some number }) ∨
    (∃ number k, r.configured op = { r with table := r.table.set number k }) ∨
    ∃ k, r.configured op = ⟨r.table ++ [k], r.active?.or (some r.table.length)⟩ := by
  cases op with
  | select number =>
    simp only [configured, select]
    cases found : r.get number with
    | error e => exact .inl rfl
    | ok k =>
      have inside := (List.getElem?_eq_some_iff.mp (get_eq_ok_iff.mp found)).1
      exact .inr (.inl ⟨number, inside, rfl⟩)
  | set number name value =>
    simp only [configured, set, bind, Except.bind]
    cases r.get number with
    | error e => exact .inl rfl
    | ok k =>
      dsimp only
      cases Catalogue.set k name value with
      | error e => exact .inl rfl
      | ok k' => exact .inr (.inr (.inl ⟨number, k', rfl⟩))
  | register k =>
    simp only [configured, register]
    cases r.find? (Catalogue.name k) with
    | some number => exact .inl rfl
    | none => exact .inr (.inr (.inr ⟨k, rfl⟩))
  | _ => exact .inl rfl

theorem IsValid.configured (valid : r.IsValid) (op : Operation κ) : (r.configured op).IsValid := by
  intro number active
  rcases r.configured_cases op with same | ⟨other, inside, made⟩ | ⟨other, k, made⟩ | ⟨k, made⟩
  · rw [same] at active ⊢
    exact valid number active
  · rw [made] at active ⊢
    exact Option.some.inj active ▸ inside
  · rw [made] at active ⊢
    simpa using valid number active
  · rw [made] at active ⊢
    rw [List.length_append]
    rcases Option.or_eq_some_iff.mp active with old | ⟨-, new⟩
    · exact Nat.lt_succ_of_lt (valid number old)
    · exact Option.some.inj new ▸ Nat.lt_succ_self _

/-- No change of the registry leaves it without an active catalogue. -/
theorem active?_configured (r : Registry κ) (op : Operation κ) (active : r.active?.isSome) :
    (r.configured op).active?.isSome := by
  rcases r.configured_cases op with same | ⟨other, -, made⟩ | ⟨other, k, made⟩ | ⟨k, made⟩
  · rwa [same]
  · rw [made]
    rfl
  · rwa [made]
  · rw [made]
    simp

end Registry

/-! ## Commands -/

/-- What may be done with a discovery. -/
inductive Discovery.Command (κ : Type) where
  /-- A catalogue is added. -/
  | register (k : κ)
  /-- A setting of a catalogue is given a value. -/
  | set (number : ℕ) (name value : String)
  /-- Another catalogue is made active. -/
  | select (number : ℕ)
  /-- The discovery waits for chunks from now on. -/
  | setLive
  /-- The policy for delays is set. -/
  | setBackoff (policy : BackoffPolicy)
  /-- The active catalogue is started. -/
  | start
  /-- Chunks are fetched, in at most so many rounds. -/
  | fetch (criteria : Criteria) (rounds : ℕ)
  /-- The discovery is closed. -/
  | close

/-- The command, with a translated catalogue if one is added. -/
def Discovery.Command.map {κ κ' : Type} (φ : κ → κ') : Command κ → Command κ'
  | register k => register (φ k)
  | set number name value => set number name value
  | select number => select number
  | setLive => setLive
  | setBackoff policy => setBackoff policy
  | start => start
  | fetch criteria rounds => fetch criteria rounds
  | close => close

namespace Discovery

variable {κ : Type}

theorem Command.map_watched (commands : List (Command κ)) :
    (commands.map (.map .new)).map (.map Watched.catalogue) = commands := by
  have each : ∀ command : Command κ, (command.map .new).map Watched.catalogue = command := by
    intro command
    cases command <;> rfl
  rw [List.map_map]
  exact (List.map_congr_left fun command _ => each command).trans (List.map_id commands)

section Perform

variable [Catalogue κ]

/-- The discovery after a command; a change of the registry that fails leaves it as it is. -/
def perform (d : Discovery κ) : Command κ → Discovery κ
  | .register k => { d with registry := d.registry.configured (.register k) }
  | .set number name value => { d with registry := d.registry.configured (.set number name value) }
  | .select number => { d with registry := d.registry.configured (.select number) }
  | .setLive => d.setLive
  | .setBackoff policy => d.setBackoff policy
  | .start => d.start.2
  | .fetch criteria rounds => (d.fetch criteria rounds).2
  | .close => d.close

/-- The discovery after several commands, one after the other. -/
def performAll (d : Discovery κ) (commands : List (Command κ)) : Discovery κ :=
  commands.foldl perform d

theorem performAll_concat (d : Discovery κ) (commands : List (Command κ)) (command : Command κ) :
    d.performAll (commands ++ [command]) = (d.performAll commands).perform command :=
  List.foldl_concat ..

/-- A fetch whose chunks are put behind those that wait: how many there are, if it is settled. -/
def fetchInto (c : Criteria) (rounds : ℕ) (backlog : Backlog) (d : Discovery κ) :
    Option (Except FeedError ℕ) × Discovery κ × Backlog :=
  let (result?, d) := d.fetch c rounds
  (result?.map (Except.map List.length), d, backlog ++ result?.elim [] foundIn)

end Perform

/-! ## Translated catalogues -/

section Maps

variable {κ' : Type} [Catalogue κ] [Catalogue κ'] {φ : κ → κ'}

theorem fetch_map (hom : Catalogue.Hom φ) (c : Criteria) (rounds : ℕ) (d : Discovery κ) :
    (d.map φ).fetch c rounds = (d.fetch c rounds).map id (Discovery.map φ) := by
  induction rounds generalizing d with
  | zero => rfl
  | succ rounds ih =>
    rw [fetch, fetch, round_map hom]
    cases d.round c with
    | mk outcome d' =>
      cases outcome with
      | settled result => rfl
      | waiting delay => exact ih d'

theorem perform_map (hom : Catalogue.Hom φ) (d : Discovery κ) (command : Command κ) :
    (d.map φ).perform (command.map φ) = (d.perform command).map φ := by
  have registry := fun op : Operation κ => d.registry.configured_map hom op
  cases command with
  | register k => exact congrArg (fun r => { d.map φ with registry := r }) (registry (.register k))
  | set number name value =>
    exact congrArg (fun r => { d.map φ with registry := r }) (registry (.set number name value))
  | select number =>
    exact congrArg (fun r => { d.map φ with registry := r }) (registry (.select number))
  | setLive | setBackoff | close => rfl
  | start => exact congrArg Prod.snd (d.start_map hom)
  | fetch c rounds => exact congrArg Prod.snd (d.fetch_map hom c rounds)

theorem performAll_map (hom : Catalogue.Hom φ) (d : Discovery κ) (commands : List (Command κ)) :
    (d.map φ).performAll (commands.map (Command.map φ)) = (d.performAll commands).map φ := by
  induction commands generalizing d with
  | nil => rfl
  | cons command commands ih =>
    rw [List.map_cons, performAll, List.foldl_cons, perform_map hom]
    exact ih (d.perform command)

end Maps

/-! ## The last start -/

section LastStart

variable [Catalogue κ] {d₀ d d' : Discovery κ} {commands : List (Command κ)} {command : Command κ}
  {number number' : ℕ} {result result' : Except FeedError Unit} {c : Criteria}

/-- The last start was for the catalogue of a number and had a result, and nothing has been closed
since then. -/
def LastStart (d₀ : Discovery κ) (commands : List (Command κ)) (number : ℕ)
    (result : Except FeedError Unit) : Prop :=
  ∃ before after, commands = before ++ .start :: after ∧ .start ∉ after ∧ .close ∉ after ∧
    (d₀.performAll before).registry.active? = some number ∧
    (d₀.performAll before).start.1 = result

/-- A start is the last one; closing ends it; no other command matters. -/
theorem lastStart_concat_iff : d₀.LastStart (commands ++ [command]) number result ↔
    command = .start ∧ (d₀.performAll commands).registry.active? = some number ∧
        (d₀.performAll commands).start.1 = result ∨
      command ≠ .start ∧ command ≠ .close ∧ d₀.LastStart commands number result := by
  constructor
  · rintro ⟨before, after, split, noStart, noClose, active, begun⟩
    -- the start is either the last command, or stands before it
    rcases List.eq_nil_or_concat after with rfl | ⟨after, last, rfl⟩
    · obtain ⟨rfl, ⟨⟩⟩ := List.append_inj' split rfl
      exact .inl ⟨rfl, active, begun⟩
    · rw [List.concat_eq_append] at split noStart noClose
      rw [← List.cons_append, ← List.append_assoc] at split
      obtain ⟨rfl, ⟨⟩⟩ := List.append_inj' split rfl
      simp only [List.mem_append, List.mem_singleton, not_or] at noStart noClose
      exact .inr ⟨Ne.symm noStart.2, Ne.symm noClose.2, before, after, rfl, noStart.1, noClose.1,
        active, begun⟩
  · rintro (⟨rfl, active, begun⟩ | ⟨noStart, noClose, before, after, rfl, noStart', noClose',
      active, begun⟩)
    · exact ⟨commands, [], rfl, List.not_mem_nil, List.not_mem_nil, active, begun⟩
    · refine ⟨before, after ++ [command], by simp, ?_, ?_, active, begun⟩
      · simp [noStart', Ne.symm noStart]
      · simp [noClose', Ne.symm noClose]

theorem not_lastStart_nil : ¬ d₀.LastStart [] number result := by
  rintro ⟨before, after, split, -⟩
  simp at split

/-- There is one last start at most. -/
theorem LastStart.unique (last : d₀.LastStart commands number result)
    (last' : d₀.LastStart commands number' result') : number = number' ∧ result = result' := by
  induction commands using List.reverseRecOn with
  | nil => exact absurd last not_lastStart_nil
  | append_singleton commands command ih =>
    rw [lastStart_concat_iff] at last last'
    rcases last with ⟨rfl, active, begun⟩ | ⟨noStart, -, last⟩
    · rcases last' with ⟨-, active', begun'⟩ | ⟨noStart, -⟩
      · exact ⟨Option.some.inj (active.symm.trans active'), begun.symm.trans begun'⟩
      · exact absurd rfl noStart
    · rcases last' with ⟨isStart, -⟩ | ⟨-, -, last'⟩
      · exact absurd isStart noStart
      · exact ih last last'

/-- The last start was another one just if it was for another catalogue or had another result. -/
theorem LastStart.not_iff (last : d₀.LastStart commands number' result') :
    ¬ d₀.LastStart commands number result ↔ number' ≠ number ∨ result' ≠ result := by
  rw [← not_and_or]
  refine not_congr ⟨fun last' => last.unique last', ?_⟩
  rintro ⟨rfl, rfl⟩
  exact last

/-! ## Whether a fetch is refused -/

/-- Questions may be asked just if they might before, and there is a catalogue for them if there was
one. -/
structure StaysReady (d d' : Discovery κ) : Prop where
  /-- Neither has the discovery been started nor closed. -/
  standing : d'.standing = .off ↔ d.standing = .off
  valid : d.registry.IsValid → d'.registry.IsValid
  active : d.registry.active?.isSome → d'.registry.active?.isSome

omit [Catalogue κ] in
theorem StaysReady.refl (d : Discovery κ) : d.StaysReady d := ⟨.rfl, id, id⟩

omit [Catalogue κ] in
theorem StaysReady.trans {d'' : Discovery κ} (first : d.StaysReady d')
    (second : d'.StaysReady d'') : d.StaysReady d'' where
  standing := second.standing.trans first.standing
  valid valid := second.valid (first.valid valid)
  active active := second.active (first.active active)

omit [Catalogue κ] in
theorem StaysReady.of_registry {r : Registry κ} (valid : d.registry.IsValid → r.IsValid)
    (active : d.registry.active?.isSome → r.active?.isSome) :
    d.StaysReady { d with registry := r } := ⟨.rfl, valid, active⟩

theorem staysReady_round (c : Criteria) (d : Discovery κ) : d.StaysReady (d.round c).2 := by
  by_cases off : d.standing = .off
  · rw [round_of_outcome?_eq_none (if_pos off)]
    exact .refl d
  cases current : d.registry.current? with
  | none =>
    rw [round_of_outcome?_eq_none (by simp [outcome?, current])]
    exact .refl d
  | some k =>
    -- only the catalogue that has been asked is replaced
    have registry := registry_round off current c
    have started : d.IsStarted := ⟨off, by rw [current]; rfl⟩
    refine ⟨iff_of_false (started.round c).standing off, fun valid => ?_, fun active => ?_⟩
    · rw [registry]
      exact valid.replaceCurrent _
    · rwa [registry, Registry.active?_replaceCurrent]

theorem staysReady_fetch (c : Criteria) (rounds : ℕ) (d : Discovery κ) :
    d.StaysReady (d.fetch c rounds).2 := by
  induction rounds generalizing d with
  | zero => exact .refl d
  | succ rounds ih =>
    have first := d.staysReady_round c
    rw [fetch]
    cases round : d.round c with
    | mk outcome d' =>
      rw [round] at first
      cases outcome with
      | settled result => exact first
      | waiting delay => exact first.trans (ih d')

/-- Only starting and closing change whether questions may be asked. -/
theorem staysReady_perform (noStart : command ≠ .start) (noClose : command ≠ .close) :
    d.StaysReady (d.perform command) := by
  have registry := fun op : Operation κ =>
    StaysReady.of_registry (d := d) (fun valid => valid.configured op)
      (d.registry.active?_configured op)
  cases command with
  | register k => exact registry (.register k)
  | set number name value => exact registry (.set number name value)
  | select number => exact registry (.select number)
  | setLive | setBackoff => exact ⟨.rfl, id, id⟩
  | start => exact absurd rfl noStart
  | fetch c rounds => exact d.staysReady_fetch c rounds
  | close => exact absurd rfl noClose

/-- What is known of a discovery after some commands: questions may be asked just if there has been
a start since the last closing, however it went. -/
structure Follows (d₀ : Discovery κ) (commands : List (Command κ)) (d : Discovery κ) : Prop where
  /-- The active catalogue is one that there is. -/
  valid : d.registry.IsValid
  /-- Without an active catalogue no start has changed anything. -/
  active : d.standing ≠ .off → d.registry.active?.isSome
  /-- What a fetch looks at tells no more about the last start than that there was one. -/
  standing_iff : d.standing ≠ .off ↔ ∃ number result, d₀.LastStart commands number result

/-- A start leaves the active catalogue active, and questions may be asked if there is one. -/
theorem start_spec (valid : d.registry.IsValid) : d.start.2.registry.IsValid ∧
    d.start.2.registry.active? = d.registry.active? ∧
    (d.start.2.standing ≠ .off ↔ d.standing ≠ .off ∨ d.registry.active?.isSome) := by
  have current?_isSome : d.registry.current?.isSome ↔ d.registry.active?.isSome := by
    cases active : d.registry.active? with
    | none => simp [Registry.current?, active]
    | some number =>
      obtain ⟨k, -, current⟩ := valid.exists_current? active
      simp [current]
  have starts := d.starts_start
  generalize d.start = after at starts
  cases starts with
  | nothing current => exact ⟨valid, rfl, by simp [← current?_isSome, current]⟩
  | invalid current => exact ⟨valid, rfl, by simp [← current?_isSome, current]⟩
  | failed current | started current =>
    exact ⟨valid.replaceCurrent _, Registry.active?_replaceCurrent _ _,
      by simp [← current?_isSome, current]⟩

theorem Follows.perform (follows : Follows d₀ commands (d₀.performAll commands))
    (command : Command κ) :
    Follows d₀ (commands ++ [command]) ((d₀.performAll commands).perform command) := by
  by_cases start : command = .start
  · subst start
    obtain ⟨valid, active, standing⟩ := start_spec follows.valid
    -- a discovery that has been started has an active catalogue, so this alone decides
    have on_iff := standing.trans (or_iff_right_of_imp follows.active)
    refine ⟨valid, fun on => ?_, on_iff.trans ?_⟩
    · rw [Discovery.perform, active]
      exact on_iff.mp on
    · simp [lastStart_concat_iff, Option.isSome_iff_exists]
  by_cases close : command = .close
  · subst close
    refine ⟨follows.valid, fun on => absurd rfl on, iff_of_false (· rfl) ?_⟩
    rintro ⟨number, result, last⟩
    rcases lastStart_concat_iff.mp last with ⟨⟨⟩, -⟩ | ⟨-, noClose, -⟩
    exact noClose rfl
  · -- neither the standing nor the last start is changed
    have stays := staysReady_perform (d := d₀.performAll commands) start close
    have same : (∃ number result, d₀.LastStart (commands ++ [command]) number result) ↔
        ∃ number result, d₀.LastStart commands number result := by
      simp only [lastStart_concat_iff, start, close, false_and, false_or, ne_eq,
        not_false_eq_true, true_and]
    refine ⟨stays.valid follows.valid, fun on => ?_, ?_⟩
    · exact stays.active (follows.active fun off => on (stays.standing.mpr off))
    · rw [same, ← follows.standing_iff]
      exact not_congr stays.standing

/-- Commands to a new discovery. -/
theorem follows_performAll (table : List κ) (commands : List (Command κ)) :
    Follows (ofList table) commands ((ofList table).performAll commands) := by
  induction commands using List.reverseRecOn with
  | nil =>
    refine ⟨Registry.isValid_ofList table, fun on => absurd rfl on, iff_of_false (· rfl) ?_⟩
    rintro ⟨number, result, last⟩
    exact not_lastStart_nil last
  | append_singleton commands command ih =>
    rw [performAll_concat]
    exact ih.perform command

end LastStart

/-! ## Who is asked -/

section Asked

variable {d d' d'' : Discovery (Watched κ)} {c : Criteria} {number number' rounds : ℕ}

/-- The catalogue of a number is asked one question or several, with the criteria, and no other one
is asked or changed. -/
structure AsksOnly (c : Criteria) (number : ℕ) (d d' : Discovery (Watched κ)) : Prop where
  /-- The questions are written down. -/
  asked : ∃ w w' entries, d.registry.table[number]? = some w ∧
    d'.registry.table[number]? = some w' ∧ w'.log = w.log ++ entries ∧ entries ≠ [] ∧
    ∀ entry ∈ entries, ∃ cursor outcome, entry = .asked c cursor outcome
  /-- All other catalogues are as they were. -/
  others : ∀ other, other ≠ number → d'.registry.table[other]? = d.registry.table[other]?

namespace AsksOnly

theorem trans (first : AsksOnly c number d d') (second : AsksOnly c number d' d'') :
    AsksOnly c number d d'' := by
  obtain ⟨w, w₁, entries, before, between, log, some_asked, questions⟩ := first.asked
  obtain ⟨w₂, w', entries', between', after, log', -, questions'⟩ := second.asked
  cases between.symm.trans between'
  refine ⟨⟨w, w', entries ++ entries', before, after, ?_, ?_, ?_⟩, fun other apart => ?_⟩
  · rw [log', log, List.append_assoc]
  · exact List.append_ne_nil_of_left_ne_nil some_asked _
  · exact List.forall_mem_append.mpr ⟨questions, questions'⟩
  · rw [second.others other apart, first.others other apart]

/-- Where nothing happens nobody is asked. -/
theorem irrefl : ¬ AsksOnly c number d d := by
  rintro ⟨⟨w, w', entries, before, after, log, some_asked, -⟩, -⟩
  cases before.symm.trans after
  exact some_asked (List.append_right_eq_self.mp log.symm)

/-- Only one catalogue is asked. -/
theorem unique (asks : AsksOnly c number d d') (asks' : AsksOnly c number' d d') :
    number = number' := by
  by_contra apart
  obtain ⟨w, w', entries, before, after, log, some_asked, -⟩ := asks.asked
  rw [asks'.others number apart, before] at after
  cases after
  exact some_asked (List.append_right_eq_self.mp log.symm)

end AsksOnly

/-- The catalogue of a number is active and may be asked. -/
structure IsReady (d : Discovery κ) (number : ℕ) : Prop where
  standing : d.standing ≠ .off
  active : d.registry.active? = some number
  inside : number < d.registry.table.length

variable [Catalogue κ]

/-- A round asks the active catalogue. -/
theorem IsReady.round (ready : d.IsReady number) (c : Criteria) :
    AsksOnly c number d (d.round c).2 ∧ (d.round c).2.IsReady number := by
  obtain ⟨standing, active, inside⟩ := ready
  have here := List.getElem?_eq_getElem inside
  generalize d.registry.table[number] = w at here
  have current := Registry.current?_eq_some active here
  have started : d.IsStarted := ⟨standing, by rw [current]; rfl⟩
  have registry := registry_round standing current c
  cases query : Catalogue.query w c d.cursor with
  | mk outcome w' =>
    rw [query] at registry
    have table := Registry.table_replaceCurrent active w'
    rw [← registry] at table
    refine ⟨⟨⟨w, w', [.asked c d.cursor outcome], here, ?_, Watched.log_of_query query,
      List.cons_ne_nil _ _, List.forall_mem_singleton.mpr ⟨_, _, rfl⟩⟩, fun other apart => ?_⟩,
      (started.round c).standing, ?_, ?_⟩
    · rw [table, List.getElem?_set_self inside]
    · rw [table, List.getElem?_set_ne (Ne.symm apart)]
    · rw [registry, Registry.active?_replaceCurrent, active]
    · rwa [table, List.length_set]

/-- A fetch asks the active catalogue. -/
theorem IsReady.fetch (ready : d.IsReady number) (c : Criteria) (rounds : ℕ) :
    AsksOnly c number d (d.fetch c (rounds + 1)).2 := by
  induction rounds generalizing d with
  | zero =>
    obtain ⟨asks, -⟩ := ready.round c
    rw [Discovery.fetch]
    cases round : d.round c with
    | mk outcome d' =>
      rw [round] at asks
      cases outcome <;> exact asks
  | succ rounds ih =>
    obtain ⟨asks, ready'⟩ := ready.round c
    rw [Discovery.fetch]
    cases round : d.round c with
    | mk outcome d' =>
      rw [round] at asks ready'
      cases outcome with
      | settled result => exact asks
      | waiting delay => exact asks.trans (ih ready')

/-- While it is off, a fetch is refused. -/
theorem fetch_of_off {d : Discovery κ} (off : d.standing = .off) (c : Criteria) (rounds : ℕ) :
    d.fetch c (rounds + 1) = (some (.error notStarted), d) := by
  rw [Discovery.fetch, round_of_outcome?_eq_none (if_pos off)]

/-- A new discovery, whose catalogues are watched, after some commands. -/
def watchedAfter (table : List κ) (commands : List (Command κ)) : Discovery (Watched κ) :=
  ((ofList table).map .new).performAll (commands.map (.map .new))

theorem map_watchedAfter (table : List κ) (commands : List (Command κ)) :
    (watchedAfter table commands).map Watched.catalogue =
      (ofList table).performAll commands := by
  have erased := performAll_map Watched.hom_catalogue ((ofList table).map .new)
    (commands.map (.map .new))
  rw [Command.map_watched, (ofList table).map_watched] at erased
  exact erased.symm

section After

variable (table : List κ) (commands : List (Command κ))

/-- Questions may be asked of watched catalogues just if there has been a start since the last
closing. -/
theorem standing_watchedAfter_iff : (watchedAfter table commands).standing ≠ .off ↔
    ∃ started result, (ofList table).LastStart commands started result := by
  have follows := follows_performAll table commands
  rw [← map_watchedAfter] at follows
  exact follows.standing_iff

variable {table commands}

theorem exists_isReady (on : (watchedAfter table commands).standing ≠ .off) :
    ∃ number, (watchedAfter table commands).IsReady number := by
  have follows := follows_performAll table commands
  rw [← map_watchedAfter] at follows
  obtain ⟨number, active⟩ := Option.isSome_iff_exists.mp (follows.active on)
  have inside := follows.valid number active
  rw [Discovery.map, Registry.map, List.length_map] at inside
  exact ⟨number, on, active, inside⟩

theorem asksOnly_fetch_iff : AsksOnly c number (watchedAfter table commands)
      ((watchedAfter table commands).fetch c (rounds + 1)).2 ↔
    (watchedAfter table commands).registry.active? = some number ∧
      ∃ started result, (ofList table).LastStart commands started result := by
  rw [← standing_watchedAfter_iff]
  by_cases off : (watchedAfter table commands).standing = .off
  · -- nobody is asked when there has been no start
    rw [fetch_of_off off]
    exact iff_of_false AsksOnly.irrefl fun ready => ready.2 off
  · obtain ⟨active, ready⟩ := exists_isReady off
    have asks := ready.fetch c rounds
    constructor
    · intro asks'
      rw [asks'.unique asks]
      exact ⟨ready.active, off⟩
    · rintro ⟨here, -⟩
      rwa [Option.some.inj (here.symm.trans ready.active)]

end After

/-- **Who is asked.** A new discovery is given commands in any order, and then chunks are fetched.
Watching the catalogues changes nothing. If there has been a start since the last closing, the
catalogue that is active now is asked, and no other one; else the fetch is refused, and neither the
discovery nor what waits is changed. So the catalogue that is asked was started by the last start,
except if this start failed or was for another catalogue. -/
theorem asks_once_started (table : List κ) (commands : List (Command κ)) (c : Criteria)
    (rounds : ℕ) :
    let d₀ := ofList table
    let d := watchedAfter table commands
    let d' := (d.fetch c (rounds + 1)).2
    d.map Watched.catalogue = d₀.performAll commands ∧
      (∀ number, AsksOnly c number d d' ↔ d.registry.active? = some number ∧
        ∃ started result, d₀.LastStart commands started result) ∧
      ((∀ started result, ¬ d₀.LastStart commands started result) → ∀ backlog : Backlog,
        d.fetchInto c (rounds + 1) backlog = (some (.error notStarted), d, backlog)) ∧
      ∀ number, AsksOnly c number d d' →
        (¬ d₀.LastStart commands number (.ok ()) ↔ ∃ started result,
          d₀.LastStart commands started result ∧ (started ≠ number ∨ result ≠ .ok ())) := by
  intro d₀ d d'
  refine ⟨map_watchedAfter table commands, fun number => asksOnly_fetch_iff,
    fun never backlog => ?_, fun number asks => ?_⟩
  · have off : d.standing = .off := by
      by_contra on
      obtain ⟨started, result, last⟩ := (standing_watchedAfter_iff table commands).mp on
      exact never started result last
    rw [fetchInto, fetch_of_off off]
    exact Prod.ext rfl (Prod.ext rfl (List.append_nil backlog))
  · obtain ⟨-, started, result, last⟩ := asksOnly_fetch_iff.mp asks
    rw [last.not_iff]
    constructor
    · intro differs
      exact ⟨started, result, last, differs⟩
    · rintro ⟨started', result', last', differs⟩
      obtain ⟨rfl, rfl⟩ := last'.unique last
      exact differs

end Asked

/-- A catalogue that has been started is asked; when the discovery is closed it is asked no more. -/
theorem asks_once_started_sample :
    AsksOnly {} 0 (watchedAfter [sampleCatalogue] [.start])
        ((watchedAfter [sampleCatalogue] [.start]).fetch {} 1).2 ∧
      ∀ backlog : Backlog,
        (watchedAfter [sampleCatalogue] [.start, .close]).fetchInto {} 1 backlog =
          (some (.error notStarted), watchedAfter [sampleCatalogue] [.start, .close], backlog) := by
  obtain ⟨-, asks_iff, -⟩ := asks_once_started [sampleCatalogue] [.start] {} 0
  obtain ⟨-, -, refused, -⟩ := asks_once_started [sampleCatalogue] [.start, .close] {} 0
  constructor
  · have last : (ofList [sampleCatalogue]).LastStart [.start] 0 (.ok ()) :=
      ⟨[], [], rfl, List.not_mem_nil, List.not_mem_nil, rfl, rfl⟩
    exact (asks_iff 0).mpr ⟨rfl, 0, .ok (), last⟩
  · refine refused fun started result last => ?_
    have behind : (ofList [sampleCatalogue]).LastStart ([.start] ++ [.close]) started result := last
    rcases lastStart_concat_iff.mp behind with ⟨⟨⟩, -⟩ | ⟨-, closed, -⟩
    exact closed rfl

/-! ## Catalogues that are asked without having been started -/

/-- A catalogue that cannot be started at first. -/
def refusingCatalogue : Replay :=
  { sampleCatalogue with
    script := [.chunks sampleChunks none]
    starts := [some (.unavailable "down")] }

/-- The only start fails; yet the catalogue is asked, and its chunks are found. -/
theorem asks_after_failed_start :
    let d := watchedAfter [refusingCatalogue] [.start]
    (ofList [refusingCatalogue]).start.1 = .error (.unavailable "down") ∧
      (∀ number, ¬ (ofList [refusingCatalogue]).LastStart [.start] number (.ok ())) ∧
      AsksOnly {} 0 d (d.fetch {} 1).2 ∧ (d.fetch {} 1).1 = some (.ok sampleChunks) := by
  have failed : (ofList [refusingCatalogue]).LastStart [.start] 0 (.error (.unavailable "down")) :=
    ⟨[], [], rfl, List.not_mem_nil, List.not_mem_nil, rfl, rfl⟩
  have ready : (watchedAfter [refusingCatalogue] [.start]).IsReady 0 :=
    ⟨by decide, rfl, by decide⟩
  refine ⟨rfl, fun number started => ?_, ready.fetch {} 0, by decide +kernel⟩
  cases (failed.unique started).2

-- the start succeeds, but then another catalogue is made active, and that one is asked
example : AsksOnly {} 1 (watchedAfter [sampleCatalogue, sampleCatalogue] [.start, .select 1])
    ((watchedAfter [sampleCatalogue, sampleCatalogue] [.start, .select 1]).fetch {} 1).2 :=
  IsReady.fetch ⟨by decide, rfl, by decide⟩ {} 0

end Discovery

end RouteFeed
