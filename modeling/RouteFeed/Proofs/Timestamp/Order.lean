import Mathlib.Algebra.Ring.Nat
import Mathlib.Data.Nat.Log
import RouteFeed.Timestamp.Basic

/-!
# The two orders of timestamps

The total order of bit patterns refines the comparison of values: magnitudes number the values from
zero on, so a pattern that comes earlier stands for a value that is not greater. This holds of all
patterns, also of those that are not numbers, if the values are taken as their units.

## Main results

* `Timestamp.unitsOfMagnitude_mono` — greater magnitudes stand for greater values
* `Timestamp.units_le_of_orderKey_le` — the total order refines the comparison of values
-/

namespace RouteFeed

theorem twoTo_eq (n : ℕ) : twoTo n = 2 ^ n := rfl

theorem twoTo_succ (n : ℕ) : twoTo (n + 1) = 2 * twoTo n := by
  rw [twoTo_eq, twoTo_eq, Nat.pow_succ, Nat.mul_comm]

theorem twoTo_add (m n : ℕ) : twoTo (m + n) = twoTo m * twoTo n := Nat.pow_add 2 m n

theorem twoTo_le_twoTo {m n : ℕ} (h : m ≤ n) : twoTo m ≤ twoTo n :=
  Nat.pow_le_pow_right (by decide) h

namespace Timestamp

variable {m n : ℕ} {s t : Timestamp}

theorem unitsOfMagnitude_of_lt (h : m < twoTo 52) : unitsOfMagnitude m = m := if_pos h

theorem unitsOfMagnitude_of_le (h : twoTo 52 ≤ m) :
    unitsOfMagnitude m = (twoTo 52 + m % twoTo 52) * twoTo (m / twoTo 52 - 1) :=
  if_neg (Nat.not_lt.mpr h)

theorem one_le_div_of_le (h : twoTo 52 ≤ m) : 1 ≤ m / twoTo 52 :=
  (Nat.one_le_div_iff (twoTo_pos 52)).mpr h

/-- A value of a power of two of units lies in the stretch that its exponent stands for. -/
theorem unitsOfMagnitude_bounds (h : twoTo 52 ≤ m) :
    twoTo 52 * twoTo (m / twoTo 52 - 1) ≤ unitsOfMagnitude m ∧
      unitsOfMagnitude m < twoTo 52 * twoTo (m / twoTo 52) := by
  rw [unitsOfMagnitude_of_le h]
  have fraction := Nat.mod_lt m (twoTo_pos 52)
  constructor
  · exact Nat.mul_le_mul_right _ (Nat.le_add_right _ _)
  · obtain ⟨e, he⟩ := Nat.exists_eq_add_of_le' (one_le_div_of_le h)
    rw [he, Nat.add_sub_cancel, twoTo_succ e, ← Nat.mul_assoc, Nat.mul_two]
    exact Nat.mul_lt_mul_of_pos_right (Nat.add_lt_add_left fraction _) (twoTo_pos e)

theorem unitsOfMagnitude_mono (h : m ≤ n) : unitsOfMagnitude m ≤ unitsOfMagnitude n := by
  by_cases small : n < twoTo 52
  · rw [unitsOfMagnitude_of_lt small, unitsOfMagnitude_of_lt (h.trans_lt small)]
    exact h
  have large : twoTo 52 ≤ n := Nat.not_lt.mp small
  by_cases small' : m < twoTo 52
  · rw [unitsOfMagnitude_of_lt small']
    have whole : twoTo 52 ≤ twoTo 52 * twoTo (n / twoTo 52 - 1) :=
      Nat.le_mul_of_pos_right _ (twoTo_pos _)
    exact (small'.le.trans whole).trans (unitsOfMagnitude_bounds large).1
  have large' : twoTo 52 ≤ m := Nat.not_lt.mp small'
  -- with a greater exponent the whole stretch is greater, with the same one the fraction decides
  rcases Nat.lt_or_eq_of_le (@Nat.div_le_div_right m n (twoTo 52) h) with less | same
  · have gap : twoTo 52 * twoTo (m / twoTo 52) ≤ twoTo 52 * twoTo (n / twoTo 52 - 1) :=
      Nat.mul_le_mul_left _ (twoTo_le_twoTo (Nat.le_sub_one_of_lt less))
    exact ((unitsOfMagnitude_bounds large').2.le.trans gap).trans (unitsOfMagnitude_bounds large).1
  · rw [unitsOfMagnitude_of_le large, unitsOfMagnitude_of_le large', same]
    have fraction : m % twoTo 52 ≤ n % twoTo 52 := by
      have left := Nat.div_add_mod m (twoTo 52)
      have right := Nat.div_add_mod n (twoTo 52)
      rw [same] at left
      omega
    exact Nat.mul_le_mul_right _ (Nat.add_le_add_left fraction _)

/-- The total order refines the comparison of values. -/
theorem units_le_of_orderKey_le (h : s.orderKey ≤ t.orderKey) : s.units ≤ t.units := by
  unfold orderKey at h
  unfold units
  by_cases hs : s.isNegative
  · by_cases ht : t.isNegative
    · simp only [hs, ht, ↓reduceIte] at h ⊢
      have mono := unitsOfMagnitude_mono (m := t.magnitude) (n := s.magnitude) (by omega)
      omega
    · simp only [hs, ht, ↓reduceIte, Bool.false_eq_true]
      omega
  · by_cases ht : t.isNegative
    · simp only [hs, ht, ↓reduceIte, Bool.false_eq_true] at h
      omega
    · simp only [hs, ht, ↓reduceIte, Bool.false_eq_true] at h ⊢
      have mono := unitsOfMagnitude_mono (m := s.magnitude) (n := t.magnitude) (by omega)
      omega

/-- Comparison of values, by the two conditions that it consists of. -/
theorem le_iff : s.le t ↔ (s.isNaN = false ∧ t.isNaN = false) ∧ s.units ≤ t.units := by
  simp [le]

theorem le_trans {u : Timestamp} (h : s.le t) (h' : t.le u) : s.le u := by
  rw [le_iff] at *
  exact ⟨⟨h.1.1, h'.1.2⟩, Int.le_trans h.2 h'.2⟩

end Timestamp

end RouteFeed
