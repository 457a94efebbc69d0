import Mathlib.Data.Prod.Lex
import Mathlib.Data.String.Basic
import RouteFeed.Merge.Lane

/-!
# The order of lanes

Lanes deliver in the lexicographic order of three things: the place of the next record's time in the
total order of timestamps, the name of the collector, and the number of the lane. Lanes of different
numbers are never equal in this order, so which of them comes first does not depend on how the merge
lists them.

## Main definitions

* `Lane.key` — what lanes are compared by

## Main results

* `Lane.isBefore_iff` — a lane delivers before another exactly if its key is less
* `leastLane?_spec` — the lane that is picked has the least key
-/

namespace RouteFeed

namespace Lane

/-- What lanes are compared by: time, collector and number. -/
def key (l : Lane) : ℤ ×ₗ String ×ₗ ℕ :=
  toLex (l.head.time.orderKey, toLex (l.chunk.collector, l.number))

theorem order_eq_lt_iff {a b : Lane} : a.order b = .lt ↔ a.key < b.key := by
  simp only [order, key, Ordering.then_eq_lt, compare_lt_iff_lt, compare_eq_iff_eq,
    Prod.Lex.toLex_lt_toLex]

theorem isBefore_iff {a b : Lane} : a.isBefore b = true ↔ a.key < b.key := by
  rw [← order_eq_lt_iff, isBefore]
  cases a.order b <;> decide

end Lane

/-- Only where there is no lane none is picked. -/
theorem leastLane?_eq_none_iff {ls : List Lane} : leastLane? ls = none ↔ ls = [] := by
  cases ls with
  | nil => simp [leastLane?]
  | cons a rest =>
    rw [leastLane?]
    cases leastLane? rest with
    | none => simp
    | some found =>
      obtain ⟨b, others⟩ := found
      by_cases hb : b.isBefore a <;> simp [hb]

/-- The lane that is picked is one of the lanes, the others stay, and none of them has a key that is
less. -/
theorem leastLane?_spec {ls others : List Lane} {l : Lane} (h : leastLane? ls = some (l, others)) :
    ls.Perm (l :: others) ∧ ∀ o ∈ others, l.key ≤ o.key := by
  induction ls generalizing l others with
  | nil => simp [leastLane?] at h
  | cons a rest ih =>
    rw [leastLane?] at h
    cases hrest : leastLane? rest with
    | none =>
      obtain rfl := leastLane?_eq_none_iff.mp hrest
      simp only [hrest, Option.some.injEq, Prod.mk.injEq] at h
      obtain ⟨rfl, rfl⟩ := h
      exact ⟨.refl _, by simp⟩
    | some found =>
      obtain ⟨b, others'⟩ := found
      obtain ⟨perm, least⟩ := ih hrest
      rw [hrest] at h
      by_cases hb : b.isBefore a
      · simp only [hb, ↓reduceIte, Option.some.injEq, Prod.mk.injEq] at h
        obtain ⟨rfl, rfl⟩ := h
        have below : b.key ≤ a.key := (Lane.isBefore_iff.mp hb).le
        exact ⟨(perm.cons a).trans (.swap _ _ _), by simpa using ⟨below, least⟩⟩
      · simp only [hb, Bool.false_eq_true, ↓reduceIte, Option.some.injEq, Prod.mk.injEq] at h
        obtain ⟨rfl, rfl⟩ := h
        have below : a.key ≤ b.key := not_lt.mp fun lt => hb (Lane.isBefore_iff.mpr lt)
        refine ⟨.refl _, fun o ho => ?_⟩
        rcases List.mem_cons.mp (perm.subset ho) with rfl | ho
        · exact below
        · exact below.trans (least o ho)

end RouteFeed
