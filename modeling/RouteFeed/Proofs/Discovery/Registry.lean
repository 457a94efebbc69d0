import Mathlib.Data.List.Nodup
import RouteFeed.Proofs.Catalogue.Naming
import RouteFeed.Proofs.Catalogue.Setting
import RouteFeed.Proofs.Discovery.Commands

/-!
# The registry stays in order

Whatever is done with a discovery, its catalogues have different names, and numbers from zero on
without a gap; the number that is found for the name of a catalogue is its number. A number stands
for the same catalogue for ever. One catalogue is active as soon as there is one. A catalogue is
refused just if its name is taken, and a setting of a catalogue of one of the kinds that every feed
knows is changed alone.

All this follows from what one command can do to the registry: another catalogue becomes active, one
catalogue becomes what is made of it, or one is added at the end.

## Main definitions

* `Registry.Changes` — one change
* `Registry.IsOrderly` — catalogues that can be told apart by number and by name
* `Discovery.Registers`, `Discovery.SetsOne` — what comes of a registration and of a value

## Main results

* `Discovery.changes_perform` — a command changes the registry in these ways only
* `Registry.Changes.isOrderly`, `Registry.Changes.exists_becomes` — what one change keeps
* `Discovery.keeps_registry_in_order` — any commands to a new discovery
-/

namespace RouteFeed

open Relation (ReflTransGen)

namespace Registry

variable {κ : Type} [Catalogue κ] {r r' : Registry κ} {k k' : κ} {number : ℕ} {name : String}

/-! ## Look-up by name -/

theorem find?_eq_none_iff : r.find? name = none ↔ name ∉ r.table.map Catalogue.name := by
  simp [find?, List.findIdx?_eq_none_iff]

/-- If no two catalogues have the same name each is found by its name. -/
theorem find?_name (names : (r.table.map Catalogue.name).Nodup)
    (here : r.table[number]? = some k) : r.find? (Catalogue.name k) = some number := by
  obtain ⟨inside, rfl⟩ := List.getElem?_eq_some_iff.mp here
  rw [find?, List.findIdx?_eq_some_iff_getElem]
  refine ⟨inside, decide_eq_true rfl, fun earlier before same => ?_⟩
  have apart := List.pairwise_iff_getElem.mp names earlier number
    (by rw [List.length_map]; exact before.trans inside) (by rwa [List.length_map]) before
  rw [List.getElem_map, List.getElem_map] at apart
  exact apart (of_decide_eq_true same)

theorem register_of_taken (taken : r.find? (Catalogue.name k) = some number) : r.register k =
    .error (.misconfigured ("data interface " ++ Catalogue.name k ++ " already registered")) := by
  rw [register, taken]

theorem register_of_free (free : r.find? (Catalogue.name k) = none) : r.register k =
    .ok (r.table.length, ⟨r.table ++ [k], r.active?.or (some r.table.length)⟩) := by
  rw [register, free]

/-! ## Order -/

/-- The catalogues can be told apart by number and by name, and one of them is active. -/
structure IsOrderly (r : Registry κ) : Prop where
  /-- No two catalogues have the same name. -/
  names : (r.table.map Catalogue.name).Nodup
  /-- The numbers of the catalogues go from zero on without a gap. -/
  numbers : ∀ number, (∃ k, r.get number = .ok k) ↔ number < r.table.length
  /-- Each catalogue is found by its name. -/
  found : ∀ number k, r.get number = .ok k → r.find? (Catalogue.name k) = some number
  /-- A catalogue is active if there is one. -/
  active : r.table ≠ [] → ∃ number k, r.active? = some number ∧ r.get number = .ok k
  /-- No catalogue is active if there is none. -/
  inactive : r.table = [] → r.active? = none

theorem isOrderly_of (names : (r.table.map Catalogue.name).Nodup) (valid : r.IsValid)
    (active : r.table ≠ [] → r.active?.isSome) : r.IsOrderly where
  names := names
  numbers number := by simp [get_eq_ok_iff, List.getElem?_eq_some_iff]
  found number k here := find?_name names (get_eq_ok_iff.mp here)
  active known := by
    obtain ⟨number, chosen⟩ := Option.isSome_iff_exists.mp (active known)
    obtain ⟨k, here, -⟩ := valid.exists_current? chosen
    exact ⟨number, k, chosen, get_eq_ok_iff.mpr here⟩
  inactive unknown := by
    by_contra chosen
    obtain ⟨number, chosen⟩ := Option.ne_none_iff_exists'.mp chosen
    have inside := valid number chosen
    rw [unknown] at inside
    exact Nat.not_lt_zero _ inside

namespace IsOrderly

theorem isValid (orderly : r.IsOrderly) : r.IsValid := by
  intro number chosen
  by_cases unknown : r.table = []
  · rw [orderly.inactive unknown] at chosen
    cases chosen
  · obtain ⟨number', k, chosen', here⟩ := orderly.active unknown
    cases chosen.symm.trans chosen'
    exact (orderly.numbers number).mp ⟨k, here⟩

theorem isSome_active? (orderly : r.IsOrderly) (known : r.table ≠ []) : r.active?.isSome := by
  obtain ⟨number, k, chosen, -⟩ := orderly.active known
  exact Option.isSome_iff_exists.mpr ⟨number, chosen⟩

end IsOrderly

theorem isOrderly_ofList {table : List κ} (names : (table.map Catalogue.name).Nodup) :
    (ofList table).IsOrderly := by
  refine isOrderly_of names (isValid_ofList table) fun known => ?_
  cases table with
  | nil => exact absurd rfl known
  | cons k table => rfl

/-! ## Changes -/

/-- One change of a registry. -/
inductive Changes : Registry κ → Registry κ → Prop where
  /-- Another catalogue becomes active. -/
  | select {r : Registry κ} {number : ℕ} (inside : number < r.table.length) :
      Changes r { r with active? := some number }
  /-- One catalogue becomes what is made of it. -/
  | develop {r : Registry κ} {number : ℕ} {k k' : κ} (here : r.table[number]? = some k)
      (becomes : Catalogue.Becomes k k') : Changes r { r with table := r.table.set number k' }
  /-- A catalogue whose name is not taken is added; it becomes active if none is. -/
  | register {r : Registry κ} {k : κ} (free : r.find? (Catalogue.name k) = none) :
      Changes r ⟨r.table ++ [k], r.active?.or (some r.table.length)⟩

/-- Putting what a catalogue becomes into its place leaves the names. -/
theorem names_set (keeps : Catalogue.KeepsNames κ) (here : r.table[number]? = some k)
    (becomes : Catalogue.Becomes k k') :
    (r.table.set number k').map Catalogue.name = r.table.map Catalogue.name := by
  obtain ⟨inside, rfl⟩ := List.getElem?_eq_some_iff.mp here
  have inside' : number < (r.table.map Catalogue.name).length := by rwa [List.length_map]
  rw [List.map_set, keeps _ _ becomes, ← List.getElem_map Catalogue.name (h := inside'),
    List.set_getElem_self]

namespace Changes

/-- One change leaves the registry in order. -/
theorem isOrderly (keeps : Catalogue.KeepsNames κ) (change : r.Changes r')
    (orderly : r.IsOrderly) : r'.IsOrderly := by
  cases change with
  | select inside =>
    refine isOrderly_of orderly.names ?_ fun _ => rfl
    rintro number ⟨⟩
    exact inside
  | develop here becomes =>
    refine isOrderly_of ?_ ?_ ?_
    · rw [names_set keeps here becomes]
      exact orderly.names
    · intro number chosen
      rw [List.length_set]
      exact orderly.isValid number chosen
    · intro known
      exact orderly.isSome_active? fun unknown => known (by simp [unknown])
  | register free =>
    refine isOrderly_of ?_ ?_ fun _ => by simp
    · rw [List.map_append, List.map_singleton, ← List.concat_eq_append]
      exact orderly.names.concat (find?_eq_none_iff.mp free)
    · intro number chosen
      rw [List.length_append, List.length_singleton]
      rcases Option.or_eq_some_iff.mp chosen with old | ⟨-, new⟩
      · exact Nat.lt_succ_of_lt (orderly.isValid number old)
      · exact Option.some.inj new ▸ Nat.lt_succ_self _

/-- After one change a number stands for the same catalogue, or for what has been made of it. -/
theorem exists_becomes (change : r.Changes r') (here : r.get number = .ok k) :
    ∃ k', r'.get number = .ok k' ∧ ReflTransGen Catalogue.Becomes k k' := by
  rw [get_eq_ok_iff] at here
  simp only [get_eq_ok_iff]
  cases change with
  | select => exact ⟨k, here, .refl⟩
  | @develop place k₀ k' there becomes =>
    have inside := (List.getElem?_eq_some_iff.mp here).1
    by_cases same : place = number
    · subst same
      cases there.symm.trans here
      exact ⟨k', List.getElem?_set_self inside, .single becomes⟩
    · exact ⟨k, by rw [List.getElem?_set_ne same, here], .refl⟩
  | register =>
    have inside := (List.getElem?_eq_some_iff.mp here).1
    exact ⟨k, by rw [List.getElem?_append_left inside, here], .refl⟩

end Changes

/-- A change of the set-up is one change of the registry, or none. -/
theorem changes_configured (r : Registry κ) (op : Operation κ) :
    r.configured op = r ∨ r.Changes (r.configured op) := by
  cases op with
  | select number =>
    simp only [configured, select]
    cases found : r.get number with
    | error e => exact .inl rfl
    | ok k => exact .inr (.select (List.getElem?_eq_some_iff.mp (get_eq_ok_iff.mp found)).1)
  | set number name value =>
    simp only [configured, set, bind, Except.bind]
    cases found : r.get number with
    | error e => exact .inl rfl
    | ok k =>
      dsimp only
      cases made : Catalogue.set k name value with
      | error e => exact .inl rfl
      | ok k' => exact .inr (.develop (get_eq_ok_iff.mp found) (.set name value made))
  | register k =>
    simp only [configured, register]
    cases free : r.find? (Catalogue.name k) with
    | some number => exact .inl rfl
    | none => exact .inr (.register free)
  | _ => exact .inl rfl

/-- What becomes of the active catalogue is put into its place. -/
theorem changes_replaceCurrent (current : r.current? = some k)
    (becomes : Catalogue.Becomes k k') : r.Changes (r.replaceCurrent k') := by
  obtain ⟨number, active, here⟩ := Option.bind_eq_some_iff.mp current
  have change := Changes.develop here becomes
  rwa [← table_replaceCurrent active k', ← r.active?_replaceCurrent k'] at change

end Registry

/-! ## Commands -/

namespace Discovery

variable {κ : Type} [Catalogue κ] {d : Discovery κ}

theorem changes_round (c : Criteria) (d : Discovery κ) :
    (d.round c).2.registry = d.registry ∨ d.registry.Changes (d.round c).2.registry := by
  by_cases off : d.standing = .off
  · rw [round_of_outcome?_eq_none (if_pos off)]
    exact .inl rfl
  cases current : d.registry.current? with
  | none =>
    rw [round_of_outcome?_eq_none (by simp [outcome?, current])]
    exact .inl rfl
  | some k =>
    rw [registry_round off current c]
    exact .inr (Registry.changes_replaceCurrent current (.query ⟨c, d.cursor, rfl⟩))

theorem reflTransGen_of_changes {r r' : Registry κ} (change : r' = r ∨ r.Changes r') :
    ReflTransGen Registry.Changes r r' := by
  rcases change with rfl | change
  · exact .refl
  · exact .single change

theorem changes_fetch (c : Criteria) (rounds : ℕ) (d : Discovery κ) :
    ReflTransGen Registry.Changes d.registry (d.fetch c rounds).2.registry := by
  induction rounds generalizing d with
  | zero => exact .refl
  | succ rounds ih =>
    have first := reflTransGen_of_changes (d.changes_round c)
    rw [fetch]
    cases round : d.round c with
    | mk outcome d' =>
      rw [round] at first
      cases outcome with
      | settled result => exact first
      | waiting delay => exact first.trans (ih d')

theorem changes_start (d : Discovery κ) :
    d.start.2.registry = d.registry ∨ d.registry.Changes d.start.2.registry := by
  have starts := d.starts_start
  generalize d.start = after at starts
  cases starts with
  | nothing | invalid => exact .inl rfl
  | @failed k k' _ current _ begun | @started k k' current _ begun =>
    have becomes : Catalogue.Becomes k k' := by
      have started := Catalogue.Becomes.start k
      rwa [begun] at started
    exact .inr (Registry.changes_replaceCurrent current becomes)

/-- Whatever the command, the registry is changed in these ways only. -/
theorem changes_perform (d : Discovery κ) (command : Command κ) :
    ReflTransGen Registry.Changes d.registry (d.perform command).registry := by
  cases command with
  | register k => exact reflTransGen_of_changes (d.registry.changes_configured (.register k))
  | set number name value =>
    exact reflTransGen_of_changes (d.registry.changes_configured (.set number name value))
  | select number =>
    exact reflTransGen_of_changes (d.registry.changes_configured (.select number))
  | start => exact reflTransGen_of_changes d.changes_start
  | fetch c rounds => exact d.changes_fetch c rounds
  | setLive | setBackoff | close => exact .refl

theorem changes_performAll (d : Discovery κ) (commands : List (Command κ)) :
    ReflTransGen Registry.Changes d.registry (d.performAll commands).registry := by
  induction commands generalizing d with
  | nil => exact .refl
  | cons first commands ih => exact (d.changes_perform first).trans (ih (d.perform first))

/-- Commands leave the registry in order. -/
theorem isOrderly_performAll (keeps : Catalogue.KeepsNames κ) (orderly : d.registry.IsOrderly)
    (commands : List (Command κ)) : (d.performAll commands).registry.IsOrderly := by
  have changes := d.changes_performAll commands
  generalize (d.performAll commands).registry = r at changes
  induction changes with
  | refl => exact orderly
  | tail _ change ih => exact change.isOrderly keeps ih

/-- After commands a number stands for the same catalogue, or for what has been made of it. -/
theorem exists_becomes_performAll {number : ℕ} {k : κ} (here : d.registry.get number = .ok k)
    (commands : List (Command κ)) : ∃ k', (d.performAll commands).registry.get number = .ok k' ∧
      ReflTransGen Catalogue.Becomes k k' := by
  have changes := d.changes_performAll commands
  generalize (d.performAll commands).registry = r at changes
  induction changes with
  | refl => exact ⟨k, here, .refl⟩
  | tail _ change ih =>
    obtain ⟨k₁, there, becomes⟩ := ih
    obtain ⟨k', there', becomes'⟩ := change.exists_becomes there
    exact ⟨k', there', becomes.trans becomes'⟩

/-! ## Registration -/

/-- What comes of a registration: a catalogue is refused just if its name is taken, and this changes
nothing; else it gets the next number, and the catalogues before it stay as they are. -/
structure Registers (d : Discovery κ) (k : κ) : Prop where
  refused_iff : (∃ e, d.registry.register k = .error e) ↔
    ∃ number k', d.registry.get number = .ok k' ∧ Catalogue.name k' = Catalogue.name k
  refused : ∀ e, d.registry.register k = .error e → d.perform (.register k) = d
  added : ∀ number r, d.registry.register k = .ok (number, r) →
    number = d.registry.table.length ∧ r.table = d.registry.table ++ [k] ∧
      d.perform (.register k) = { d with registry := r }

theorem registers (d : Discovery κ) (k : κ) : d.Registers k := by
  have taken_iff : d.registry.find? (Catalogue.name k) ≠ none ↔
      ∃ number k', d.registry.get number = .ok k' ∧ Catalogue.name k' = Catalogue.name k := by
    rw [ne_eq, Registry.find?_eq_none_iff, not_not, List.mem_map]
    simp only [List.mem_iff_getElem?, Registry.get_eq_ok_iff]
    exact ⟨fun ⟨k', ⟨number, here⟩, same⟩ => ⟨number, k', here, same⟩,
      fun ⟨number, k', here, same⟩ => ⟨k', ⟨number, here⟩, same⟩⟩
  cases found : d.registry.find? (Catalogue.name k) with
  | some number =>
    have refused := Registry.register_of_taken found
    refine ⟨iff_of_true ⟨_, refused⟩ (taken_iff.mp (by simp [found])), fun _ _ => ?_, ?_⟩
    · rw [perform, Registry.configured, refused]
      rfl
    · intro number r made
      cases refused.symm.trans made
  | none =>
    have added := Registry.register_of_free found
    refine ⟨iff_of_false ?_ (mt taken_iff.mpr (by simp [found])), ?_, ?_⟩
    · rintro ⟨e, failed⟩
      cases added.symm.trans failed
    · intro e failed
      cases added.symm.trans failed
    · intro number r made
      cases added.symm.trans made
      refine ⟨rfl, rfl, ?_⟩
      rw [perform, Registry.configured, added]
      rfl

/-! ## Settings -/

/-- What comes of a value for a setting of a catalogue of one of the kinds that every feed knows: if
there is a setting of this name it gets the value, and no other setting and no other catalogue is
changed; else there is a failure, which changes nothing. -/
structure SetsOne (d : Discovery (Source ⊕ κ)) (number : ℕ) (name value : String) : Prop where
  assigned : ∀ source place, d.registry.get number = .ok (.inl source) →
    Settings.find? (Catalogue.settings source) name = some place →
      let source' := source.withSettings ((Catalogue.settings source).assign place value)
      let r' := { d.registry with table := d.registry.table.set number (.inl source') }
      d.registry.set number name value = .ok r' ∧
        d.perform (.set number name value) = { d with registry := r' }
  unknownSetting : ∀ source, d.registry.get number = .ok (.inl source) →
    Settings.find? (Catalogue.settings source) name = none →
      d.registry.set number name value =
          .error (.unknownOption (Catalogue.name source) name) ∧
        d.perform (.set number name value) = d
  unknownCatalogue : d.registry.table.length ≤ number →
    d.registry.set number name value = .error (.unknownCatalogue (Numeral.printNat number)) ∧
      d.perform (.set number name value) = d

theorem perform_set_of_ok {r : Registry κ} {number : ℕ} {name value : String}
    (made : d.registry.set number name value = .ok r) :
    d.perform (.set number name value) = { d with registry := r } := by
  rw [perform, Registry.configured, made]
  rfl

theorem perform_set_of_error {e : FeedError} {number : ℕ} {name value : String}
    (failed : d.registry.set number name value = .error e) :
    d.perform (.set number name value) = d := by
  rw [perform, Registry.configured, failed]
  rfl

theorem setsOne (d : Discovery (Source ⊕ κ)) (number : ℕ) (name value : String) :
    d.SetsOne number name value := by
  have known : ∀ source, d.registry.get number = .ok (.inl source) →
      d.registry.set number name value = ((Catalogue.set source name value).map Sum.inl).map
        fun k => { d.registry with table := d.registry.table.set number k } := by
    intro source here
    rw [Registry.set, here]
    show (((Catalogue.set source name value).map Sum.inl).bind _) = _
    cases Catalogue.set source name value <;> rfl
  refine ⟨fun source place here found => ?_, fun source here found => ?_, fun outside => ?_⟩
  · have made := known source here
    rw [Source.set_eq, found] at made
    exact ⟨made, perform_set_of_ok made⟩
  · have failed := known source here
    rw [Source.set_eq, found] at failed
    exact ⟨failed, perform_set_of_error failed⟩
  · have failed : d.registry.set number name value =
        .error (.unknownCatalogue (Numeral.printNat number)) := by
      rw [Registry.set, Registry.get, List.getElem?_eq_none outside]
      rfl
    exact ⟨failed, perform_set_of_error failed⟩

/-! ## Any commands -/

/-- **The registry stays in order.** A new discovery has the catalogues that every feed knows, or
none, and is given commands in any order; catalogues of any other kind that keep their names may be
registered, too. Then the catalogues can be told apart by number and by name, and one of them is
active; a number stands for the same catalogue for ever; a catalogue is refused just if its name is
taken; and a value changes the one setting that it is for. -/
theorem keeps_registry_in_order (foreign : Catalogue.KeepsNames κ) {table : List (Source ⊕ κ)}
    (new : table = [] ∨ ∃ archive service now,
      table = (Source.builtIn archive service now).map .inl)
    (commands later : List (Command (Source ⊕ κ))) :
    let d := (ofList table).performAll commands
    d.registry.IsOrderly ∧
      (∀ number k, d.registry.get number = .ok k →
        ∃ k', (d.performAll later).registry.get number = .ok k' ∧
          ReflTransGen Catalogue.Becomes k k' ∧ Catalogue.name k' = Catalogue.name k) ∧
      (∀ k, d.Registers k) ∧ ∀ number name value, d.SetsOne number name value := by
  intro d
  have keeps := Source.keepsNames.sum foreign
  have names : (table.map Catalogue.name).Nodup := by
    rcases new with rfl | ⟨archive, service, now, rfl⟩
    · exact List.nodup_nil
    · show ["broker", "sqlite", "csvfile", "singlefile"].Nodup
      decide
  refine ⟨isOrderly_performAll keeps (Registry.isOrderly_ofList names) commands,
    fun number k here => ?_, d.registers, d.setsOne⟩
  obtain ⟨k', there, becomes⟩ := exists_becomes_performAll here later
  exact ⟨k', there, becomes, keeps.of_reflTransGen becomes⟩

/-- The catalogues of a new feed, beside which others may be registered. -/
def builtInCatalogues : List (Source ⊕ Replay) :=
  (Source.builtIn { files := [] } (fun _ => none) 0).map .inl

/-- A catalogue is added twice and made active, settings are given values, and chunks are asked
for. -/
def sampleCommands : List (Command (Source ⊕ Replay)) :=
  [.register (.inr sampleCatalogue), .register (.inr sampleCatalogue), .select 4,
    .set 2 "csv-file" "dumps", .set 2 "db-file" "dumps", .start, .fetch {} 1, .close]

/-- The table keeps the number two, has got a value, and gets another one; the catalogue that was
added is refused if it is added again. -/
theorem keeps_registry_in_order_sample :
    let d := (ofList builtInCatalogues).performAll sampleCommands
    let table : TableFile := { archive := { files := [] } }
    let given := (Catalogue.settings table).assign 0 "dumps"
    d.registry.find? "csvfile" = some 2 ∧
      d.registry.get 2 = .ok (.inl (.table { table with settings := given })) ∧
      (d.perform (.set 2 "csv-file" "others")).registry.get 2 =
        .ok (.inl (.table { table with settings := given.assign 0 "others" })) ∧
      d.perform (.register (.inr sampleCatalogue)) = d := by
  intro d table given
  have new : builtInCatalogues = [] ∨ ∃ archive service now,
      builtInCatalogues = (Source.builtIn archive service now).map .inl := .inr ⟨_, _, _, rfl⟩
  obtain ⟨orderly, -, registers, sets⟩ :=
    keeps_registry_in_order Replay.keepsNames new sampleCommands []
  have here : d.registry.get 2 = .ok (.inl (.table { table with settings := given })) := rfl
  obtain ⟨-, changed⟩ := (sets 2 "csv-file" "others").assigned _ 0 here rfl
  have taken : ∃ e, d.registry.register (.inr sampleCatalogue) = .error e :=
    (registers _).refused_iff.mpr ⟨4, _, rfl, rfl⟩
  obtain ⟨e, refused⟩ := taken
  exact ⟨orderly.found 2 _ here, here, congrArg (fun d => d.registry.get 2) changed,
    (registers _).refused e refused⟩

end Discovery

end RouteFeed
