import RouteFeed.Catalogue.Basic

/-!
# Catalogues that are watched

A catalogue that is watched does what it does otherwise, and writes down when it is started and what
it is asked. So what has been asked of catalogues can be read off them, in whatever feed they stand,
and the feed does not notice.

## Main definitions

* `Catalogue.Hom` — a map that keeps all that catalogues can do
* `Watched` — a catalogue and what has been written down
* `Watched.Interview` — questions with the same criteria, each going on behind the last answer

## Main results

* `Watched.hom_catalogue` — watching a catalogue does not change what it does
-/

namespace RouteFeed

/-- The map keeps all that catalogues can do. -/
structure Catalogue.Hom {κ κ' : Type} [Catalogue κ] [Catalogue κ'] (φ : κ → κ') : Prop where
  name : ∀ k, Catalogue.name (φ k) = Catalogue.name k
  set : ∀ k option value, Catalogue.set (φ k) option value = (Catalogue.set k option value).map φ
  validate : ∀ k, Catalogue.validate (φ k) = Catalogue.validate k
  start : ∀ k, Catalogue.start (φ k) = (Catalogue.start k).map id φ
  query : ∀ k criteria cursor,
    Catalogue.query (φ k) criteria cursor = (Catalogue.query k criteria cursor).map id φ

/-- What is written down of a catalogue. -/
inductive Watched.Entry (κ : Type) where
  /-- It was started, from the state that it was in then, with a result. -/
  | started (before : κ) (result : Except FeedError Unit)
  /-- It was asked which chunks meet the criteria and come after a cursor. -/
  | asked (criteria : Criteria) (cursor : Cursor) (outcome : Except FeedError Answer)

/-- A catalogue that is watched. -/
structure Watched (κ : Type) where
  /-- The catalogue. -/
  catalogue : κ
  /-- What has been written down. -/
  log : List (Watched.Entry κ) := []

namespace Watched

variable {κ : Type}

/-- The catalogue is watched from now on. -/
def new (k : κ) : Watched κ := { catalogue := k }

/-- The cursor of a question. -/
def Entry.cursor? : Entry κ → Option Cursor
  | started _ _ => none
  | asked _ cursor _ => some cursor

/-- The cursors of all questions that the catalogue has been asked. -/
def questions (w : Watched κ) : List Cursor := w.log.filterMap Entry.cursor?

/-- Questions that are all asked with the same criteria: the first one from the start, every other
one from the cursor of the last answer, or from the start if there has been none. They lead to the
cursor of the next one. -/
inductive Interview (c : Criteria) : List (Entry κ) → Cursor → Prop where
  /-- Nothing has been asked. -/
  | start : Interview c [] .start
  /-- A question has been answered. -/
  | answered {entries : List (Entry κ)} {cursor : Cursor} (answer : Answer)
      (earlier : Interview c entries cursor) :
      Interview c (entries ++ [.asked c cursor (.ok answer)]) answer.next
  /-- A question has failed. -/
  | failed {entries : List (Entry κ)} {cursor : Cursor} (e : FeedError)
      (earlier : Interview c entries cursor) :
      Interview c (entries ++ [.asked c cursor (.error e)]) cursor

variable [Catalogue κ]

instance : Catalogue (Watched κ) where
  name w := Catalogue.name w.catalogue
  description w := Catalogue.description w.catalogue
  settings w := Catalogue.settings w.catalogue
  set w option value := (Catalogue.set w.catalogue option value).map fun k =>
    { w with catalogue := k }
  validate w := Catalogue.validate w.catalogue
  start w :=
    let (result, k) := Catalogue.start w.catalogue
    (result, ⟨k, w.log ++ [.started w.catalogue result]⟩)
  query w criteria cursor :=
    let (outcome, k) := Catalogue.query w.catalogue criteria cursor
    (outcome, ⟨k, w.log ++ [.asked criteria cursor outcome]⟩)

/-- Watching a catalogue does not change what it does. -/
theorem hom_catalogue : Catalogue.Hom (catalogue : Watched κ → κ) where
  name _ := rfl
  set w option value := by
    change _ = Except.map _ (Except.map _ _)
    cases Catalogue.set w.catalogue option value <;> rfl
  validate _ := rfl
  start _ := rfl
  query _ _ _ := rfl

variable {w w' : Watched κ}

/-- Changing a setting is not written down. -/
theorem log_of_set {option value : String} (made : Catalogue.set w option value = .ok w') :
    w'.log = w.log := by
  change Except.map _ _ = _ at made
  cases changed : Catalogue.set w.catalogue option value with
  | error e =>
    rw [changed] at made
    cases made
  | ok k =>
    rw [changed] at made
    cases made
    rfl

theorem log_of_start {result : Except FeedError Unit} (begun : Catalogue.start w = (result, w')) :
    (Catalogue.start w.catalogue).1 = result ∧
      w'.log = w.log ++ [.started w.catalogue result] := by
  cases begun
  exact ⟨rfl, rfl⟩

theorem log_of_query {c : Criteria} {cursor : Cursor} {outcome : Except FeedError Answer}
    (query : Catalogue.query w c cursor = (outcome, w')) :
    w'.log = w.log ++ [.asked c cursor outcome] := by
  cases query
  rfl

/-- A start asks nothing. -/
theorem questions_of_start {result : Except FeedError Unit}
    (begun : Catalogue.start w = (result, w')) : w'.questions = w.questions := by
  rw [questions, (log_of_start begun).2, List.filterMap_append]
  exact List.append_nil _

end Watched

end RouteFeed
