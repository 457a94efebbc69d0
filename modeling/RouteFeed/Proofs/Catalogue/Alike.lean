import RouteFeed.Proofs.Catalogue.Reordering
import RouteFeed.Proofs.Catalogue.Selection

/-!
# Catalogues that answer alike

Two tables hold the same rows in different orders, or two databases do, and no two of the chunks are
equal in all that catalogues sort by. Then they answer alike, whatever they are asked. A database
has to be typed for this: a row that is selected and holds something else than it should makes the
question fail, though there is nothing of it among the well-formed rows.

## Main definitions

* `Catalogue.Alike` — two catalogues that answer alike and are not changed by questions
* `Source.Reordered` — two tables, or two databases, with the same well-formed rows in any order
* `Source.IsTyped` — a catalogue that can answer, as far as its rows decide

## Main results

* `Source.Reordered.alike` — reordered catalogues answer alike
-/

namespace RouteFeed

/-- Two catalogues answer all questions with some criteria alike, and questions do not change
them. -/
structure Catalogue.Alike {κ : Type} [Catalogue κ] (c : Criteria) (k k' : κ) : Prop where
  unchanged : ∀ cursor, (Catalogue.query k c cursor).2 = k
  unchanged' : ∀ cursor, (Catalogue.query k' c cursor).2 = k'
  same : ∀ cursor, (Catalogue.query k' c cursor).1 = (Catalogue.query k c cursor).1

theorem Catalogue.Alike.symm {κ : Type} [Catalogue κ] {c : Criteria} {k k' : κ}
    (alike : Alike c k k') : Alike c k' k :=
  ⟨alike.unchanged', alike.unchanged, fun cursor => (alike.same cursor).symm⟩

/-- Rows stand in different orders, and no two chunks are equal in all that catalogues sort by. -/
structure Reordered (rows rows' : List Row) : Prop where
  perm : rows.Perm rows'
  distinct : (rows.map fun r => r.chunk.catalogueKey).Nodup

theorem Reordered.symm {rows rows' : List Row} (reordered : Reordered rows rows') :
    Reordered rows' rows :=
  ⟨reordered.perm.symm, (reordered.perm.map _).nodup_iff.mp reordered.distinct⟩

theorem Reordered.filter {rows rows' : List Row} (reordered : Reordered rows rows')
    (p : Row → Bool) : Reordered (rows.filter p) (rows'.filter p) :=
  ⟨reordered.perm.filter p, reordered.distinct.sublist (List.filter_sublist.map _)⟩

namespace Source

/-- Two tables that can be read, or two open databases, have the same well-formed rows in different
orders, and no two of the chunks are equal in all that catalogues sort by. -/
inductive Reordered : Source → Source → Prop where
  /-- Two tables. -/
  | table {t t' : TableFile} {rows rows' : List Row} (kept : t.rows = .ok rows)
      (kept' : t'.rows = .ok rows') (reordered : RouteFeed.Reordered rows rows') :
      Reordered (.table t) (.table t')
  /-- Two databases. -/
  | database {d d' : DatabaseFile} {db db' : Database} (opened : d.open? = some db)
      (opened' : d'.open? = some db')
      (reordered : RouteFeed.Reordered db.wellFormed db'.wellFormed) :
      Reordered (.database d) (.database d')

/-- In the open database of the catalogue, if it is one, no row holds something else than it should,
among those that questions with some criteria select. -/
def IsTyped (c : Criteria) : Source → Prop
  | .database d => ∀ db ∈ d.open?, db.IsTyped (DatabaseFile.stretch c).1 (DatabaseFile.stretch c).2
  | _ => True

end Source

variable {c : Criteria} {cursor : Cursor}

theorem TableFile.alike_of_reordered {t t' : TableFile} {rows rows' : List Row}
    (kept : t.rows = .ok rows) (kept' : t'.rows = .ok rows') (reordered : Reordered rows rows')
    (c : Criteria) : Catalogue.Alike c t t' where
  unchanged _ := rfl
  unchanged' _ := rfl
  same cursor := by
    change t'.answer c cursor = t.answer c cursor
    rw [answer_eq kept, answer_eq kept']
    exact (selectPublished_eq_of_perm reordered.perm reordered.distinct c cursor).symm

/-- A typed database answers from the well-formed rows that it selects one by one. -/
theorem DatabaseFile.exists_answerFrom_eq {db : Database} {after? : Option Seconds}
    (here : cursor.time = .ok after?) (typed : db.IsTyped (stretch c).1 (stretch c).2) :
    ∃ rows : List Row, answerFrom db c cursor = selectPublished c cursor rows ∧
      rows.Perm (db.wellFormed.filter fun r => Database.selects (after?.getD Seconds.least)
        (stretch c).1 (stretch c).2 (Database.entryOf r)) := by
  obtain ⟨selected, found, perm⟩ := typed.exists_select (after?.getD Seconds.least)
  refine ⟨selected.filterMap rowOfEntry?, ?_, perm⟩
  rw [answerFrom_eq db c here, found]

theorem DatabaseFile.answerFrom_eq_of_reordered {db db' : Database}
    (reordered : Reordered db.wellFormed db'.wellFormed)
    (typed : db.IsTyped (stretch c).1 (stretch c).2)
    (typed' : db'.IsTyped (stretch c).1 (stretch c).2) (cursor : Cursor) :
    answerFrom db' c cursor = answerFrom db c cursor := by
  cases here : cursor.time with
  | error e =>
    rw [answerFrom, answerFrom, here]
    rfl
  | ok after? =>
    obtain ⟨rows, answer, perm⟩ := exists_answerFrom_eq here typed
    obtain ⟨rows', answer', perm'⟩ := exists_answerFrom_eq here typed'
    have selected := reordered.filter fun r => Database.selects (after?.getD Seconds.least)
      (stretch c).1 (stretch c).2 (Database.entryOf r)
    rw [answer, answer']
    have same : rows.Perm rows' := (perm.trans selected.perm).trans perm'.symm
    exact (selectPublished_eq_of_perm same ((perm.map _).nodup_iff.mpr selected.distinct) c
      cursor).symm

/-- Reordered catalogues answer alike, if they can answer. -/
theorem Source.Reordered.alike {k k' : Source} (reordered : Reordered k k') (typed : k.IsTyped c)
    (typed' : k'.IsTyped c) : Catalogue.Alike c k k' := by
  cases reordered with
  | table kept kept' reordered =>
    obtain ⟨-, -, same⟩ := TableFile.alike_of_reordered kept kept' reordered c
    exact ⟨fun _ => rfl, fun _ => rfl, same⟩
  | @database d d' db db' opened opened' reordered =>
    refine ⟨fun _ => rfl, fun _ => rfl, fun cursor => ?_⟩
    change d'.answer c cursor = d.answer c cursor
    unfold DatabaseFile.answer
    rw [opened, opened']
    exact DatabaseFile.answerFrom_eq_of_reordered reordered (typed db opened) (typed' db' opened')
      cursor

end RouteFeed
