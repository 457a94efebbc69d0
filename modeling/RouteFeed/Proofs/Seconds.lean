import Mathlib.Order.MinMax
import RouteFeed.Seconds

/-!
# The order of seconds

The later of two times, and sums that stop at the ends of the range, keep the order of times. Told
by integers they are a maximum, and a sum that is cut off at both ends. A sum that wraps is the sum
of the integers as long as it stays in the range.

## Main results

* `Seconds.toInt_later`, `Seconds.toInt_clamp`, `Seconds.toInt_add_period`,
  `Seconds.toInt_add_period_of_wraps` — told by integers
* `Seconds.satSub_le_satSub`, `Seconds.le_satAdd` — order
-/

namespace RouteFeed.Seconds

/-! ## The later time -/

theorem le_later_left (a b : Seconds) : a ≤ a.later b := by
  unfold later
  split
  · assumption
  · exact Int64.le_refl a

theorem le_later_right (a b : Seconds) : b ≤ a.later b := by
  unfold later
  split
  · exact Int64.le_refl b
  · next h => exact Int64.not_lt.mp fun lt => h (Int64.le_of_lt lt)

theorem toInt_later (a b : Seconds) : (a.later b).toInt = max a.toInt b.toInt := by
  unfold later
  split_ifs with le
  · exact (max_eq_right (Int64.le_iff_toInt_le.mp le)).symm
  · have less := Int64.lt_iff_toInt_lt.mp (Int64.not_le.mp le)
    exact (max_eq_left less.le).symm

/-- The later of two times is one of them. -/
theorem later_eq_or (a b : Seconds) : a.later b = a ∨ a.later b = b := by
  unfold later
  split_ifs
  · exact .inr rfl
  · exact .inl rfl

/-! ## Saturating sums -/

theorem toInt_clamp (n : Int) :
    (Int64.ofIntClamp n).toInt = max Int64.minValue.toInt (min n Int64.maxValue.toInt) := by
  unfold Int64.ofIntClamp
  split_ifs with low high
  · rw [Int64.toInt_ofIntLE, min_eq_left high, max_eq_right low]
  · rw [min_eq_right (le_of_not_ge high), max_eq_right (by decide)]
  · rw [max_eq_left ((min_le_left _ _).trans (le_of_not_ge low))]

theorem satSub_le_satSub {a b : Seconds} (h : a ≤ b) (span : Seconds) :
    a.satSub span ≤ b.satSub span := by
  rw [Int64.le_iff_toInt_le] at h ⊢
  unfold satSub
  rw [toInt_clamp, toInt_clamp]
  exact max_le_max_left _ (min_le_min_right _ (Int.sub_le_sub_right h _))

/-- Going on from a time for a while does not lead back, even where the sum saturates. -/
theorem le_satAdd {span : Seconds} (a : Seconds) (forward : 0 ≤ span) : a ≤ a.satAdd span := by
  have upper := a.toInt_le
  rw [Int64.le_iff_toInt_le, Int64.toInt_zero] at forward
  rw [Int64.le_iff_toInt_le, satAdd, toInt_clamp]
  omega

/-! ## Wrapping sums -/

/-- Within the range, the sum of a time and a period is the sum of the integers. -/
theorem toInt_add_period {time : Seconds} {period : UInt32}
    (bounded : time.toInt ≤ Int64.maxValue.toInt - period.toNat) :
    (time + Int64.ofNat period.toNat).toInt = time.toInt + period.toNat := by
  have small := period.toNat_lt
  have lower := time.minValue_le_toInt
  rw [Int64.toInt_add, Int64.toInt_ofNat_of_lt (small.trans (by decide))]
  rw [Int64.toInt_maxValue] at bounded
  rw [Int64.toInt_minValue] at lower
  exact Int.bmod_eq_of_le (by omega) (by omega)

/-- Beyond the range, the sum of a time and a period wraps around. -/
theorem toInt_add_period_of_wraps {time : Seconds} {period : UInt32}
    (beyond : greatest.toInt < time.toInt + period.toNat) :
    (time + Int64.ofNat period.toNat).toInt = time.toInt + period.toNat - Int64.size := by
  have small := period.toNat_lt
  have upper := time.toInt_le
  have size : (Int64.size : ℤ) = 18446744073709551616 := rfl
  rw [Int64.toInt_add, Int64.toInt_ofNat_of_lt (small.trans (by decide))]
  rw [Int64.toInt_maxValue] at upper
  change 9223372036854775807 < _ at beyond
  rw [Int.bmod_def]
  omega

end RouteFeed.Seconds
