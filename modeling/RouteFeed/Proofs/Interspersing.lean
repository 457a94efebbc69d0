import Mathlib.Data.List.Basic

/-!
# Things put in between

A list is *interspersed* with things of a kind if leaving some of these out gives another list. So
all that is of no such kind is in both lists, in the same order.

## Main definitions

* `Interspersed` — a list is another one with things of a kind put in between

## Main results

* `Interspersed.filter_eq` — what is of no such kind is the same in both lists
-/

namespace RouteFeed

/-- The second list is the first one with things of a kind put in between. -/
inductive Interspersed {α : Type*} (P : α → Prop) : List α → List α → Prop where
  /-- Both lists are used up. -/
  | nil : Interspersed P [] []
  /-- The same thing comes next in both lists. -/
  | keep {x : α} {xs ys : List α} (tail : Interspersed P xs ys) : Interspersed P (x :: xs) (x :: ys)
  /-- A thing of the kind comes next in the second list. -/
  | insert {y : α} {xs ys : List α} (kind : P y) (tail : Interspersed P xs ys) :
      Interspersed P xs (y :: ys)

namespace Interspersed

variable {α β : Type*} {P : α → Prop} {Q : β → Prop} {xs ys : List α} {x last : α}

theorem refl (xs : List α) : Interspersed P xs xs := by
  induction xs with
  | nil => exact .nil
  | cons x xs ih => exact .keep ih

theorem eq_nil (h : Interspersed P xs []) : xs = [] := by
  cases h
  rfl

theorem concat (h : Interspersed P xs ys) (x : α) : Interspersed P (xs ++ [x]) (ys ++ [x]) := by
  induction h with
  | nil => exact .keep .nil
  | keep _ ih => exact .keep ih
  | insert kind _ ih => exact .insert kind ih

theorem concat_insert (h : Interspersed P xs ys) (kind : P x) : Interspersed P xs (ys ++ [x]) := by
  induction h with
  | nil => exact .insert kind .nil
  | keep _ ih => exact .keep ih
  | insert kind _ ih => exact .insert kind ih

/-- What is of no such kind is the same in both lists. -/
theorem filter_eq {p : α → Bool} (h : Interspersed P xs ys) (rejected : ∀ y, P y → p y = false) :
    ys.filter p = xs.filter p := by
  induction h with
  | nil => rfl
  | keep _ ih => rw [List.filter_cons, List.filter_cons, ih]
  | insert kind _ ih => rw [List.filter_cons, rejected _ kind, ih, if_neg Bool.false_ne_true]

/-- If a list is made of images with something behind them that is not of the kind, then so is the
list in which things are left out. -/
theorem exists_map_of_map {f : β → α} {ys : List β} (h : Interspersed P xs (ys.map f ++ [last]))
    (image : ∀ y, P (f y) → Q y) (other : ¬ P last) :
    ∃ zs, xs = zs.map f ++ [last] ∧ Interspersed Q zs ys := by
  induction ys generalizing xs with
  | nil =>
    cases h with
    | keep tail =>
      obtain rfl := tail.eq_nil
      exact ⟨[], rfl, .nil⟩
    | insert kind => exact absurd kind other
  | cons y ys ih =>
    cases h with
    | keep tail =>
      obtain ⟨zs, rfl, interspersed⟩ := ih tail
      exact ⟨y :: zs, rfl, .keep interspersed⟩
    | insert kind tail =>
      obtain ⟨zs, rfl, interspersed⟩ := ih tail
      exact ⟨zs, rfl, .insert (image y kind) interspersed⟩

end Interspersed

end RouteFeed
