import Mathlib.Logic.Relation
import RouteFeed.Catalogue.Source

/-!
# Well-behaved catalogues

A feed fails in one way that is about the feed alone: something is asked of it in the wrong phase of
its life. Its reader can tell this from all other failures only if no catalogue fails in the same
way. Nor can a feed keep its settings if a question to a catalogue changes them. A catalogue is well
behaved if, whatever is done with it, neither happens. All kinds that every feed knows are.

## Main definitions

* `FeedError.isWrongPhase` — the failure that is about the feed alone
* `Catalogue.Becomes`, `Catalogue.Asked` — what a catalogue and questions to it may lead to
* `Catalogue.IsHonest`, `Catalogue.WellBehaved` — good conduct at present and for ever

## Main results

* `Catalogue.WellBehaved.settings_eq` — questions leave the settings of a well-behaved catalogue
* `Source.wellBehaved_of_mem_builtIn` — the kinds of catalogues that every feed knows
-/

namespace RouteFeed

open Relation (ReflTransGen)

/-- The operation is not allowed in the phase that the feed is in. -/
def FeedError.isWrongPhase : FeedError → Bool
  | wrongPhase _ _ => true
  | _ => false

/-- There is no failure, or one that is not about the phase of a feed. -/
def FailsHonestly {α : Type} (result : Except FeedError α) : Prop :=
  ∀ e, result = .error e → e.isWrongPhase = false

namespace FailsHonestly

variable {α β : Type} {result : Except FeedError α} {e : FeedError}

theorem ok (a : α) : FailsHonestly (.ok a) := by
  intro e failed
  cases failed

theorem error (other : e.isWrongPhase = false) :
    FailsHonestly (.error e : Except FeedError α) := by
  intro e' failed
  cases failed
  exact other

theorem bind {f : α → Except FeedError β} (honest : FailsHonestly result)
    (next : ∀ a, FailsHonestly (f a)) : FailsHonestly (result >>= f) := by
  cases result with
  | ok a => exact next a
  | error e => exact .error (honest e rfl)

end FailsHonestly

namespace Catalogue

variable {κ : Type} [Catalogue κ] {k k' : κ}

/-- The second catalogue is what one question makes of the first. -/
def Asked (k k' : κ) : Prop := ∃ criteria cursor, (Catalogue.query k criteria cursor).2 = k'

/-- What a catalogue may become when something is done with it. -/
inductive Becomes : κ → κ → Prop where
  /-- A setting is given a value. -/
  | set {k k' : κ} (name value : String) (made : Catalogue.set k name value = .ok k') : Becomes k k'
  /-- It is started. -/
  | start (k : κ) : Becomes k (Catalogue.start k).2
  /-- It is asked. -/
  | query {k k' : κ} (asked : Asked k k') : Becomes k k'

/-- At present the catalogue does not fail as if it were about the phase of a feed, and a question
leaves its settings. -/
structure IsHonest (k : κ) : Prop where
  validate : FailsHonestly (Catalogue.validate k)
  start : FailsHonestly (Catalogue.start k).1
  query : ∀ criteria cursor, FailsHonestly (Catalogue.query k criteria cursor).1
  settings : ∀ criteria cursor,
    Catalogue.settings (Catalogue.query k criteria cursor).2 = Catalogue.settings k

/-- The catalogue is honest whatever is done with it. -/
def WellBehaved (k : κ) : Prop := ∀ k', ReflTransGen Becomes k k' → IsHonest k'

namespace WellBehaved

theorem isHonest (behaved : WellBehaved k) : IsHonest k := behaved k .refl

theorem of_becomes (behaved : WellBehaved k) (change : Becomes k k') : WellBehaved k' :=
  fun k'' changes => behaved k'' (.head change changes)

/-- What is kept by all that is done with catalogues and makes them honest makes them well
behaved. -/
theorem of_invariant {P : κ → Prop} (here : P k) (kept : ∀ k k', P k → Becomes k k' → P k')
    (honest : ∀ k, P k → IsHonest k) : WellBehaved k := by
  intro k' changes
  refine honest k' ?_
  induction changes with
  | refl => exact here
  | tail _ change ih => exact kept _ _ ih change

/-- Questions leave the settings. -/
theorem settings_eq (behaved : WellBehaved k) (asked : ReflTransGen Asked k k') :
    Catalogue.settings k' = Catalogue.settings k := by
  induction asked using ReflTransGen.head_induction_on with
  | refl => rfl
  | head first _ ih =>
    obtain ⟨criteria, cursor, rfl⟩ := first
    exact (ih (behaved.of_becomes (.query ⟨criteria, cursor, rfl⟩))).trans
      (behaved.isHonest.settings criteria cursor)

end WellBehaved

end Catalogue

/-! ## The kinds that every feed knows -/

theorem Settings.check_failsHonestly (catalogue : String) (settings : Settings) :
    FailsHonestly (settings.check catalogue) := by
  unfold Settings.check
  cases settings.find? fun s => s.required && s.effective?.isNone with
  | some s => exact .error rfl
  | none => exact .ok _

theorem Settings.require_failsHonestly (catalogue : String) (settings : Settings) (name : String) :
    FailsHonestly (settings.require catalogue name) := by
  unfold Settings.require
  cases settings.value? name with
  | some value => exact .ok _
  | none => exact .error rfl

theorem Cursor.time_failsHonestly (cursor : Cursor) : FailsHonestly cursor.time := by
  unfold Cursor.time
  split
  · exact .ok _
  · split
    · exact .ok _
    · exact .error rfl

theorem selectPublished_failsHonestly (criteria : Criteria) (cursor : Cursor) (rows : List Row) :
    FailsHonestly (selectPublished criteria cursor rows) :=
  cursor.time_failsHonestly.bind fun _ => .ok _

theorem Broker.isHonest (b : Broker) : Catalogue.IsHonest b where
  validate := b.settings.check_failsHonestly Broker.name
  start := .ok ()
  query criteria cursor := by
    change FailsHonestly (b.answer criteria cursor)
    unfold Broker.answer
    cases criteria.interval? with
    | none => exact .error rfl
    | some interval =>
      refine cursor.time_failsHonestly.bind fun after? => ?_
      generalize b.window interval after? = window
      obtain ⟨start, stop⟩ := window
      dsimp only
      split
      · exact .ok _
      · refine FailsHonestly.bind ?_ fun items => .ok _
        unfold Broker.items
        split
        · exact .ok _
        · exact .error rfl
  settings _ _ := rfl

theorem DatabaseFile.isHonest (d : DatabaseFile) : Catalogue.IsHonest d where
  validate := d.settings.check_failsHonestly DatabaseFile.name
  start := by
    have honest : FailsHonestly d.connect := by
      refine (d.settings.require_failsHonestly _ _).bind fun name => ?_
      split
      · exact .ok _
      · exact .error rfl
    dsimp only [Catalogue.start]
    cases connected : d.connect with
    | ok db => exact .ok _
    | error e => exact .error (honest e connected)
  query criteria cursor := by
    change FailsHonestly (d.answer criteria cursor)
    unfold DatabaseFile.answer
    cases d.open? with
    | none => exact .error rfl
    | some db =>
      refine cursor.time_failsHonestly.bind fun after? => ?_
      dsimp only
      split
      · exact .error rfl
      · exact selectPublished_failsHonestly _ _ _
  settings _ _ := rfl

theorem TableFile.rowsOf_failsHonestly (path : String) (bytes : List UInt8) :
    FailsHonestly (TableFile.rowsOf path bytes) := by
  unfold TableFile.rowsOf
  dsimp only
  split
  · exact .error rfl
  · split
    · exact .ok _
    · exact .error rfl

theorem TableFile.isHonest (t : TableFile) : Catalogue.IsHonest t where
  validate := t.settings.check_failsHonestly TableFile.name
  start := .ok ()
  query criteria cursor := by
    refine FailsHonestly.bind ?_ fun rows => selectPublished_failsHonestly criteria cursor rows
    refine (t.settings.require_failsHonestly _ _).bind fun path => ?_
    split
    · exact .error rfl
    · exact TableFile.rowsOf_failsHonestly _ _
    · exact .error rfl
  settings _ _ := rfl

theorem SingleFile.isHonest (s : SingleFile) : Catalogue.IsHonest s where
  validate := by
    change FailsHonestly s.validate
    unfold SingleFile.validate
    split
    · exact .error rfl
    · exact .ok _
  start := .ok ()
  query criteria cursor := .ok _
  settings _ _ := rfl

namespace Source

variable {source source' : Source}

/-- A catalogue of one kind among others is as honest as it is alone. -/
theorem isHonest_of_kind {κ : Type} [Catalogue κ] {k : κ} {wrap : κ → Source}
    (validate : Catalogue.validate (wrap k) = Catalogue.validate k)
    (start : Catalogue.start (wrap k) = (Catalogue.start k).map id wrap)
    (query : Catalogue.query (wrap k) = fun criteria cursor =>
      (Catalogue.query k criteria cursor).map id wrap)
    (settings : ∀ k, Catalogue.settings (wrap k) = Catalogue.settings k)
    (honest : Catalogue.IsHonest k) : Catalogue.IsHonest (wrap k) where
  validate := by
    rw [validate]
    exact honest.validate
  start := by
    rw [start]
    exact honest.start
  query criteria cursor := by
    rw [query]
    exact honest.query criteria cursor
  settings criteria cursor := by
    rw [query, settings]
    exact (settings _).trans (honest.settings criteria cursor)

/-- The catalogue is of a kind that every feed knows. -/
def IsBuiltIn : Source → Prop
  | replay _ => False
  | _ => True

namespace IsBuiltIn

theorem isHonest (known : source.IsBuiltIn) : Catalogue.IsHonest source := by
  cases source with
  | broker b => exact isHonest_of_kind rfl rfl rfl (fun _ => rfl) b.isHonest
  | database d => exact isHonest_of_kind rfl rfl rfl (fun _ => rfl) d.isHonest
  | table t => exact isHonest_of_kind rfl rfl rfl (fun _ => rfl) t.isHonest
  | singleFile s => exact isHonest_of_kind rfl rfl rfl (fun _ => rfl) s.isHonest
  | replay r => exact known.elim

theorem of_map {α : Type} (wrap : α → Source) {changed : Except FeedError α}
    (known : ∀ a, (wrap a).IsBuiltIn) (made : changed.map wrap = .ok source) :
    source.IsBuiltIn := by
  cases changed with
  | error e => cases made
  | ok a =>
    cases made
    exact known a

/-- Nothing that is done with a catalogue changes its kind. -/
theorem of_becomes (known : source.IsBuiltIn) (change : Catalogue.Becomes source source') :
    source'.IsBuiltIn := by
  cases change with
  | set name value made =>
    cases source with
    | broker => exact of_map broker (fun _ => trivial) made
    | database => exact of_map database (fun _ => trivial) made
    | table => exact of_map table (fun _ => trivial) made
    | singleFile => exact of_map singleFile (fun _ => trivial) made
    | replay => exact known.elim
  | start =>
    cases source with
    | broker | database | table | singleFile => trivial
    | replay => exact known.elim
  | query asked =>
    obtain ⟨criteria, cursor, rfl⟩ := asked
    cases source with
    | broker | database | table | singleFile => trivial
    | replay => exact known.elim

end IsBuiltIn

/-- The catalogues of a new feed are well behaved. -/
theorem wellBehaved_of_mem_builtIn {archive : Archive} {service : BrokerService} {now : Seconds}
    (known : source ∈ builtIn archive service now) : Catalogue.WellBehaved source := by
  have here : source.IsBuiltIn := by
    simp only [builtIn, List.mem_cons, List.not_mem_nil, or_false] at known
    rcases known with rfl | rfl | rfl | rfl <;> trivial
  exact .of_invariant here (fun _ _ => IsBuiltIn.of_becomes) fun _ => IsBuiltIn.isHonest

end Source

end RouteFeed
