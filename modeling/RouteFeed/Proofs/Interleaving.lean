import Mathlib.Data.List.Perm.Basic

/-!
# Interleavings

A list is an *interleaving* of some lists if it can be read off them by taking, again and again, the
first element of one of the lists that are left, until all of them are used up. So every element of
every list occurs once, the elements of one list stay in their order, and there is nothing else.

## Main definitions

* `Interleaves` — a list is read off some lists

## Main results

* `Interleaves.append` — interleavings of two collections, one after the other
* `Interleaves.perm_flatten` — an interleaving has the elements of the lists and no others
* `Interleaves.sublist` — it keeps each of the lists in order
-/

namespace RouteFeed

/-- The second list is read off the lists of the first, always from the front of one of them. -/
inductive Interleaves {α : Type*} : List (List α) → List α → Prop where
  /-- All lists are used up. -/
  | nil {ls : List (List α)} (empty : ∀ l ∈ ls, l = []) : Interleaves ls []
  /-- The next element stands at the front of one of the lists. -/
  | cons {ls rest : List (List α)} {x : α} {l r : List α} (next : ls.Perm ((x :: l) :: rest))
      (tail : Interleaves (l :: rest) r) : Interleaves ls (x :: r)

namespace Interleaves

variable {α : Type*} {ls ls' : List (List α)} {r r' : List α}

/-- The order of the lists does not matter. -/
theorem perm (h : Interleaves ls r) (p : ls.Perm ls') : Interleaves ls' r := by
  cases h with
  | nil empty => exact .nil fun l hl => empty l (p.symm.subset hl)
  | cons next tail => exact .cons (p.symm.trans next) tail

theorem nil_cons (h : Interleaves ls r) : Interleaves ([] :: ls) r := by
  induction h with
  | nil empty => exact .nil (by simpa using empty)
  | @cons ls rest x l r next tail ih =>
    have swapped : ([] :: ls).Perm ((x :: l) :: [] :: rest) :=
      (next.cons []).trans (.swap _ _ _)
    exact .cons swapped (ih.perm (.swap _ _ _))

/-- Lists without elements add nothing. -/
theorem append_of_empty (empty : ∀ l ∈ ls, l = []) (h : Interleaves ls' r) :
    Interleaves (ls ++ ls') r := by
  induction ls with
  | nil => exact h
  | cons l ls ih =>
    obtain rfl := empty l List.mem_cons_self
    exact (ih fun l hl => empty l (List.mem_cons_of_mem _ hl)).nil_cons

/-- What is read off two collections of lists, one after the other, is read off both together. -/
theorem append (h : Interleaves ls r) (h' : Interleaves ls' r') :
    Interleaves (ls ++ ls') (r ++ r') := by
  induction h with
  | nil empty => exact append_of_empty empty h'
  | cons next _ ih => exact .cons (next.append_right ls') ih

theorem of_filter_append (h : Interleaves (ls.filter (· ≠ []) ++ ls') r) :
    Interleaves (ls ++ ls') r := by
  have empty : ∀ l ∈ ls.filter (· = []), l = [] := by simp
  have all : (ls.filter (· = []) ++ ls.filter (· ≠ [])).Perm ls := by
    simpa using List.filter_append_perm (fun l : List α => decide (l = [])) ls
  have h := append_of_empty empty h
  rw [← List.append_assoc] at h
  exact h.perm (all.append_right ls')

/-- An interleaving has the elements of the lists and no others. -/
theorem perm_flatten (h : Interleaves ls r) : r.Perm ls.flatten := by
  induction h with
  | nil empty => rw [List.flatten_eq_nil_iff.mpr empty]
  | @cons ls rest x l r next _ ih =>
    have flat : ls.flatten.Perm (x :: (l :: rest).flatten) := by simpa using next.flatten
    exact (ih.cons x).trans flat.symm

/-- Each of the lists keeps its order. -/
theorem sublist (h : Interleaves ls r) {l : List α} (hl : l ∈ ls) : l.Sublist r := by
  induction h generalizing l with
  | nil empty => rw [empty l hl]
  | cons next _ ih =>
    rcases List.mem_cons.mp (next.subset hl) with rfl | hrest
    · exact (ih List.mem_cons_self).cons_cons _
    · exact (ih (List.mem_cons_of_mem _ hrest)).cons _

end Interleaves

end RouteFeed
