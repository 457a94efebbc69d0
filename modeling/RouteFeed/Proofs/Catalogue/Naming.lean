import RouteFeed.Proofs.Catalogue.Conduct
import RouteFeed.Proofs.Catalogue.Watched
import RouteFeed.Proofs.Result

/-!
# Names of catalogues

Catalogues are told apart by their names, so the name of a catalogue should not change by what is
done with it. The kinds that every feed knows keep their names. A feed may be given catalogues of
further kinds beside them; it is enough that these keep their names, too.

## Main definitions

* `Catalogue.KeepsNames` — whatever is done with catalogues they keep their names
* the sum of two kinds of catalogues, each of which does what it does alone

## Main results

* `Catalogue.Becomes.of_hom` — what a catalogue becomes as one of several kinds
* `Source.keepsNames` — the kinds that every feed knows
* `Catalogue.KeepsNames.sum` — two kinds side by side
-/

namespace RouteFeed

open Relation (ReflTransGen)

namespace Catalogue

variable {κ κ' : Type} [Catalogue κ] [Catalogue κ']

/-- Whatever is done with a catalogue of this type it keeps its name. -/
def KeepsNames (κ : Type) [Catalogue κ] : Prop :=
  ∀ k k' : κ, Becomes k k' → Catalogue.name k' = Catalogue.name k

theorem KeepsNames.of_reflTransGen (keeps : KeepsNames κ) {k k' : κ}
    (becomes : ReflTransGen Becomes k k') : Catalogue.name k' = Catalogue.name k := by
  induction becomes with
  | refl => rfl
  | tail _ last ih => exact (keeps _ _ last).trans ih

/-- A catalogue that stands for another one becomes what the other one becomes alone. -/
theorem Becomes.of_hom {φ : κ → κ'} (hom : Hom φ) {k : κ} {t : κ'} (becomes : Becomes (φ k) t) :
    ∃ k', t = φ k' ∧ Becomes k k' := by
  cases becomes with
  | set name value made =>
    rw [hom.set] at made
    obtain ⟨k', changed, rfl⟩ := exists_of_map_eq_ok made
    exact ⟨k', rfl, .set name value changed⟩
  | start =>
    rw [hom.start]
    exact ⟨_, rfl, .start k⟩
  | query asked =>
    obtain ⟨criteria, cursor, rfl⟩ := asked
    rw [hom.query]
    exact ⟨_, rfl, .query ⟨criteria, cursor, rfl⟩⟩

/-- A catalogue that stands for one that keeps its name keeps its name. -/
theorem KeepsNames.of_hom {φ : κ → κ'} (hom : Hom φ) (keeps : KeepsNames κ) {k : κ} {t : κ'}
    (becomes : Becomes (φ k) t) : Catalogue.name t = Catalogue.name (φ k) := by
  obtain ⟨k', rfl, becomes'⟩ := becomes.of_hom hom
  rw [hom.name, hom.name]
  exact keeps k k' becomes'

/-- Catalogues of two kinds side by side. -/
instance : Catalogue (κ ⊕ κ') where
  name := Sum.elim Catalogue.name Catalogue.name
  description := Sum.elim Catalogue.description Catalogue.description
  settings := Sum.elim Catalogue.settings Catalogue.settings
  set
    | .inl k, name, value => (Catalogue.set k name value).map .inl
    | .inr k, name, value => (Catalogue.set k name value).map .inr
  validate := Sum.elim Catalogue.validate Catalogue.validate
  start
    | .inl k => (Catalogue.start k).map id .inl
    | .inr k => (Catalogue.start k).map id .inr
  query
    | .inl k, criteria, cursor => (Catalogue.query k criteria cursor).map id .inl
    | .inr k, criteria, cursor => (Catalogue.query k criteria cursor).map id .inr

theorem hom_inl : Hom (.inl : κ → κ ⊕ κ') :=
  ⟨fun _ => rfl, fun _ _ _ => rfl, fun _ => rfl, fun _ => rfl, fun _ _ _ => rfl⟩

theorem hom_inr : Hom (.inr : κ' → κ ⊕ κ') :=
  ⟨fun _ => rfl, fun _ _ _ => rfl, fun _ => rfl, fun _ => rfl, fun _ _ _ => rfl⟩

theorem KeepsNames.sum (keeps : KeepsNames κ) (keeps' : KeepsNames κ') : KeepsNames (κ ⊕ κ') := by
  rintro (k | k) t becomes
  · exact keeps.of_hom hom_inl becomes
  · exact keeps'.of_hom hom_inr becomes

end Catalogue

theorem Replay.keepsNames : Catalogue.KeepsNames Replay := by
  intro r r' becomes
  cases becomes with
  | set name value made =>
    obtain ⟨settings, -, rfl⟩ := exists_of_map_eq_ok made
    rfl
  | start =>
    show r.begin.2.name = r.name
    unfold begin
    split <;> rfl
  | query asked =>
    obtain ⟨criteria, cursor, rfl⟩ := asked
    show (r.ask cursor).2.name = r.name
    unfold ask
    dsimp only
    split
    · rfl
    · rfl
    · split <;> rfl

namespace Source

theorem hom_broker : Catalogue.Hom broker :=
  ⟨fun _ => rfl, fun _ _ _ => rfl, fun _ => rfl, fun _ => rfl, fun _ _ _ => rfl⟩

theorem hom_database : Catalogue.Hom database :=
  ⟨fun _ => rfl, fun _ _ _ => rfl, fun _ => rfl, fun _ => rfl, fun _ _ _ => rfl⟩

theorem hom_table : Catalogue.Hom table :=
  ⟨fun _ => rfl, fun _ _ _ => rfl, fun _ => rfl, fun _ => rfl, fun _ _ _ => rfl⟩

theorem hom_singleFile : Catalogue.Hom singleFile :=
  ⟨fun _ => rfl, fun _ _ _ => rfl, fun _ => rfl, fun _ => rfl, fun _ _ _ => rfl⟩

theorem hom_replay : Catalogue.Hom replay :=
  ⟨fun _ => rfl, fun _ _ _ => rfl, fun _ => rfl, fun _ => rfl, fun _ _ _ => rfl⟩

/-- The catalogues of one kind all have one name, those that replay a script keep theirs. -/
theorem keepsNames : Catalogue.KeepsNames Source := by
  intro source source' becomes
  cases source with
  | broker => exact Catalogue.KeepsNames.of_hom hom_broker (fun _ _ _ => rfl) becomes
  | database => exact Catalogue.KeepsNames.of_hom hom_database (fun _ _ _ => rfl) becomes
  | table => exact Catalogue.KeepsNames.of_hom hom_table (fun _ _ _ => rfl) becomes
  | singleFile => exact Catalogue.KeepsNames.of_hom hom_singleFile (fun _ _ _ => rfl) becomes
  | replay => exact Catalogue.KeepsNames.of_hom hom_replay Replay.keepsNames becomes

end Source

end RouteFeed
