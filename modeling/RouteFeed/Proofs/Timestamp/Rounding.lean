import RouteFeed.Proofs.Timestamp.Order
import RouteFeed.Criteria.Interval

/-!
# Rounding whole seconds

The double nearest to a whole number of seconds is found by its magnitude. Rounding keeps the order,
and a value that is a double is left as it is. So a whole number of seconds that is not greater than
the value of a timestamp is not greater after rounding either, and the other way round.

## Main definitions

* `Timestamp.nearest` — the magnitude nearest to a number of units

## Main results

* `Timestamp.nearest_mono` — rounding keeps the order
* `Timestamp.nearest_unitsOfMagnitude` — a double is left as it is
* `Timestamp.units_ofInt_of_le` — whole seconds of at most 53 bits are doubles
* `Interval.contains_of_exact` — a timestamp between two seconds is in the interval of the two
-/

namespace RouteFeed

/-! ## The nearest integer of a ratio -/

variable {m n den : ℕ}

theorem roundHalfEven_bounds (num den : ℕ) :
    num / den ≤ roundHalfEven num den ∧ roundHalfEven num den ≤ num / den + 1 := by
  simp only [roundHalfEven]
  split_ifs <;> omega

theorem roundHalfEven_mono (den : ℕ) (h : m ≤ n) : roundHalfEven m den ≤ roundHalfEven n den := by
  rcases Nat.lt_or_eq_of_le (@Nat.div_le_div_right m n den h) with less | same
  · exact ((roundHalfEven_bounds m den).2.trans less).trans (roundHalfEven_bounds n den).1
  · have remainder : m % den ≤ n % den := by
      have left := Nat.div_add_mod m den
      have right := Nat.div_add_mod n den
      rw [same] at left
      omega
    simp only [roundHalfEven, same]
    split_ifs <;> omega

theorem roundHalfEven_mul (q : ℕ) (positive : 0 < den) : roundHalfEven (q * den) den = q := by
  simp [roundHalfEven, positive]

namespace Timestamp

/-! ## The nearest magnitude -/

/-- The magnitude nearest to a number of units, as if there were no greatest one. -/
def nearest (value : ℕ) : ℕ :=
  (value.log2 - 52) * twoTo 52 + roundHalfEven value (twoTo (value.log2 - 52))

theorem magnitudeOfRatio_one (num : ℕ) :
    magnitudeOfRatio num 1 = min (nearest (num * unitsPerSecond)) infiniteMagnitude := by
  simp [magnitudeOfRatio, nearest]

/-- The multiples of a power of two below the next one. -/
theorem roundHalfEven_le (value : ℕ) :
    roundHalfEven value (twoTo (value.log2 - 52)) ≤ 2 * twoTo 52 := by
  have small : value < twoTo (value.log2 - 52 + 53) := by
    refine (Nat.lt_log2_self (n := value)).trans_le (twoTo_le_twoTo ?_)
    omega
  rw [twoTo_add, Nat.mul_comm] at small
  have quotient := Nat.div_lt_of_lt_mul ((Nat.mul_comm _ _).trans_gt small)
  exact (roundHalfEven_bounds _ _).2.trans quotient

theorem le_roundHalfEven {value : ℕ} (large : 0 < value.log2 - 52) :
    twoTo 52 ≤ roundHalfEven value (twoTo (value.log2 - 52)) := by
  refine Nat.le_trans ?_ (roundHalfEven_bounds _ _).1
  rw [Nat.le_div_iff_mul_le (twoTo_pos _), ← twoTo_add]
  have exponent : 52 + (value.log2 - 52) = value.log2 := by omega
  rw [exponent]
  exact Nat.log2_self_le (by rintro rfl; simp at large)

theorem nearest_mono (h : m ≤ n) : nearest m ≤ nearest n := by
  have exponents : m.log2 - 52 ≤ n.log2 - 52 := by
    rw [Nat.log2_eq_log_two, Nat.log2_eq_log_two]
    exact Nat.sub_le_sub_right (Nat.log_mono_right h) 52
  unfold nearest
  rcases Nat.lt_or_eq_of_le exponents with less | same
  · have below := roundHalfEven_le m
    have above := @le_roundHalfEven n (by omega)
    have gap := Nat.mul_le_mul_right (twoTo 52) (Nat.succ_le_of_lt less)
    rw [Nat.succ_mul] at gap
    omega
  · rw [same]
    exact Nat.add_le_add_left (roundHalfEven_mono _ h) _

/-- A value that is a double is left as it is. -/
theorem nearest_unitsOfMagnitude (m : ℕ) : nearest (unitsOfMagnitude m) = m := by
  by_cases small : m < twoTo 52
  · have exponent : m.log2 - 52 = 0 := by
      by_cases zero : m = 0
      · simp [zero]
      · exact Nat.sub_eq_zero_of_le ((Nat.log2_lt zero).mpr small).le
    have exact := roundHalfEven_mul m Nat.one_pos
    rw [unitsOfMagnitude_of_lt small, nearest, exponent]
    simpa [twoTo] using exact
  · have large : twoTo 52 ≤ m := Nat.not_lt.mp small
    obtain ⟨above, below⟩ := unitsOfMagnitude_bounds large
    -- the bounds of the stretch determine the logarithm, so nothing is rounded off
    obtain ⟨e, he⟩ := Nat.exists_eq_add_of_le' (one_le_div_of_le large)
    rw [he, Nat.add_sub_cancel, ← twoTo_add] at above
    rw [he, ← twoTo_add] at below
    have exponent : (unitsOfMagnitude m).log2 - 52 = e := by
      have positive : unitsOfMagnitude m ≠ 0 := ((twoTo_pos _).trans_le above).ne'
      rw [(Nat.log2_eq_iff positive).mpr ⟨above, below⟩, Nat.add_sub_cancel_left]
    have value := unitsOfMagnitude_of_le large
    rw [he, Nat.add_sub_cancel] at value
    have division := Nat.div_add_mod m (twoTo 52)
    rw [he, Nat.mul_comm, Nat.succ_mul] at division
    rw [nearest, exponent, value, roundHalfEven_mul _ (twoTo_pos e), ← Nat.add_assoc]
    exact division

/-! ## Whole seconds -/

theorem infiniteMagnitude_lt : infiniteMagnitude < twoTo 63 := by decide

theorem ofMagnitude_eq (negative : Bool) (small : m < twoTo 63) :
    (ofMagnitude negative m).magnitude = m ∧ (ofMagnitude negative m).isNegative = negative := by
  have bits : (ofMagnitude negative m).bits.toNat = (if negative then twoTo 63 else 0) + m := by
    have size : twoTo 63 + twoTo 63 = UInt64.size := by decide
    refine UInt64.toNat_ofNat_of_lt' ?_
    rw [← size]
    cases negative
    · exact (Nat.zero_add m).trans_lt (small.trans_le (Nat.le_add_right _ _))
    · exact Nat.add_lt_add_left small _
  rw [magnitude, isNegative, bits]
  cases negative <;> simp [Nat.mod_eq_of_lt small, small]

/-- The value of a natural number of seconds after rounding, in units. -/
def roundedUnits (seconds : ℕ) : ℕ :=
  unitsOfMagnitude (min (nearest (seconds * unitsPerSecond)) infiniteMagnitude)

theorem units_ofInt (seconds : ℤ) : (ofInt seconds).units =
    if seconds < 0 then -(roundedUnits seconds.natAbs : ℤ) else roundedUnits seconds.natAbs := by
  have small : min (nearest (seconds.natAbs * unitsPerSecond)) infiniteMagnitude < twoTo 63 :=
    (Nat.min_le_right _ _).trans_lt infiniteMagnitude_lt
  obtain ⟨magnitude, sign⟩ := ofMagnitude_eq (decide (seconds < 0)) small
  rw [ofInt, ofRatio, magnitudeOfRatio_one, units, magnitude, sign]
  simp only [decide_eq_true_eq, roundedUnits]

theorem isNaN_ofInt (seconds : ℤ) : (ofInt seconds).isNaN = false := by
  have bound := Nat.min_le_right (nearest (seconds.natAbs * unitsPerSecond)) infiniteMagnitude
  have magnitude := (ofMagnitude_eq (decide (seconds < 0)) (bound.trans_lt infiniteMagnitude_lt)).1
  rw [isNaN, ofInt, ofRatio, magnitudeOfRatio_one, magnitude]
  exact decide_eq_false (Nat.not_lt.mpr bound)

theorem roundedUnits_mono (h : m ≤ n) : roundedUnits m ≤ roundedUnits n := by
  have nearer := nearest_mono (Nat.mul_le_mul_right unitsPerSecond h)
  exact unitsOfMagnitude_mono (Nat.le_min.mpr
    ⟨(Nat.min_le_left _ _).trans nearer, Nat.min_le_right _ _⟩)

/-- A number of seconds that is not greater than a double is not greater after rounding. -/
theorem roundedUnits_le {seconds : ℕ} (h : seconds * unitsPerSecond ≤ unitsOfMagnitude m) :
    roundedUnits seconds ≤ unitsOfMagnitude m := by
  refine unitsOfMagnitude_mono ((Nat.min_le_left _ _).trans ?_)
  simpa only [nearest_unitsOfMagnitude] using nearest_mono h

theorem le_roundedUnits {seconds : ℕ} (h : unitsOfMagnitude m ≤ seconds * unitsPerSecond)
    (number : m ≤ infiniteMagnitude) : unitsOfMagnitude m ≤ roundedUnits seconds := by
  refine unitsOfMagnitude_mono (Nat.le_min.mpr ⟨?_, number⟩)
  simpa only [nearest_unitsOfMagnitude] using nearest_mono h

/-- The value of a double by its exponent and its fraction. -/
theorem unitsOfMagnitude_mul_add (exponent : ℕ) {fraction : ℕ} (small : fraction < twoTo 52) :
    unitsOfMagnitude ((exponent + 1) * twoTo 52 + fraction) =
      (twoTo 52 + fraction) * twoTo exponent := by
  have large : twoTo 52 ≤ (exponent + 1) * twoTo 52 + fraction := by
    rw [Nat.succ_mul]
    omega
  rw [unitsOfMagnitude_of_le large, Nat.mul_comm (exponent + 1), Nat.mul_add_mod,
    Nat.mod_eq_of_lt small, Nat.mul_add_div (twoTo_pos 52), Nat.div_eq_of_lt small, Nat.add_zero,
    Nat.add_sub_cancel]

/-- A number of seconds of at most 53 bits is a double, and so is the number after them. -/
theorem exists_unitsOfMagnitude_eq {seconds : ℕ} (small : seconds ≤ twoTo 53) :
    ∃ m ≤ infiniteMagnitude, unitsOfMagnitude m = seconds * unitsPerSecond := by
  rcases Nat.eq_zero_or_pos seconds with rfl | positive
  · exact ⟨0, Nat.zero_le _, by rw [unitsOfMagnitude_of_lt (twoTo_pos 52), Nat.zero_mul]⟩
  rcases Nat.lt_or_eq_of_le small with less | rfl
  · -- the leading digit is shifted to where doubles have theirs
    have digits : seconds.log2 < 53 := (Nat.log2_lt positive.ne').mpr less
    obtain ⟨shift, hshift⟩ := Nat.exists_eq_add_of_le (Nat.le_of_lt_succ digits)
    have above : twoTo 52 ≤ seconds * twoTo shift := by
      rw [hshift, twoTo_add]
      exact Nat.mul_le_mul_right _ (Nat.log2_self_le positive.ne')
    have below : seconds * twoTo shift < 2 * twoTo 52 := by
      rw [hshift, ← twoTo_succ, Nat.add_right_comm, twoTo_add]
      exact Nat.mul_lt_mul_of_pos_right Nat.lt_log2_self (twoTo_pos shift)
    obtain ⟨fraction, split⟩ := Nat.exists_eq_add_of_le above
    have fits : fraction < twoTo 52 := by omega
    have exponent : seconds.log2 + 1022 + 1 < 2047 := by omega
    refine ⟨(seconds.log2 + 1022 + 1) * twoTo 52 + fraction, ?_, ?_⟩
    · have gap := Nat.mul_le_mul_right (twoTo 52) (Nat.succ_le_of_lt exponent)
      rw [Nat.succ_mul] at gap
      exact ((Nat.add_lt_add_left fits _).trans_le gap).le
    · have total : shift + (seconds.log2 + 1022) = 1074 := by omega
      rw [unitsOfMagnitude_mul_add _ fits, ← split, Nat.mul_assoc, ← twoTo_add, total,
        unitsPerSecond]
  · refine ⟨(1075 + 1) * twoTo 52, by decide, ?_⟩
    have value := unitsOfMagnitude_mul_add 1075 (twoTo_pos 52)
    simp only [Nat.add_zero, ← twoTo_add] at value
    rw [value, unitsPerSecond, ← twoTo_add]

theorem roundedUnits_eq {seconds : ℕ} (small : seconds ≤ twoTo 53) :
    roundedUnits seconds = seconds * unitsPerSecond := by
  obtain ⟨m, number, value⟩ := exists_unitsOfMagnitude_eq small
  rw [← value]
  exact Nat.le_antisymm (roundedUnits_le value.ge) (le_roundedUnits value.le number)

theorem units_ofInt_mono {a b : ℤ} (h : a ≤ b) : (ofInt a).units ≤ (ofInt b).units := by
  rw [units_ofInt, units_ofInt]
  split_ifs with ha hb
  · have mono := roundedUnits_mono (m := b.natAbs) (n := a.natAbs) (by omega)
    omega
  · omega
  · omega
  · have mono := roundedUnits_mono (m := a.natAbs) (n := b.natAbs) (by omega)
    omega

/-- The number of units of a number of seconds, by its sign. -/
theorem natAbs_mul_unitsPerSecond (seconds : ℤ) :
    ((seconds.natAbs * unitsPerSecond : ℕ) : ℤ) =
      if seconds < 0 then -(seconds * unitsPerSecond) else seconds * unitsPerSecond := by
  rw [Int.natCast_mul]
  split_ifs with negative
  · rw [Int.ofNat_natAbs_of_nonpos negative.le, Int.neg_mul]
  · rw [Int.natAbs_of_nonneg (Int.not_lt.mp negative)]

/-- Whole seconds of at most 53 bits are not rounded. -/
theorem units_ofInt_of_le {seconds : ℤ} (small : seconds.natAbs ≤ twoTo 53) :
    (ofInt seconds).units = seconds * unitsPerSecond := by
  have exact := natAbs_mul_unitsPerSecond seconds
  rw [units_ofInt, roundedUnits_eq small]
  split_ifs at * <;> omega

/-- A whole number of seconds that is not greater than a timestamp is not greater after rounding. -/
theorem ofInt_le {seconds : ℤ} {t : Timestamp} (number : t.isNaN = false)
    (h : seconds * unitsPerSecond ≤ t.units) : (ofInt seconds).le t := by
  have magnitude : t.magnitude ≤ infiniteMagnitude := Nat.not_lt.mp (of_decide_eq_false number)
  have exact := natAbs_mul_unitsPerSecond seconds
  have below := @roundedUnits_le t.magnitude seconds.natAbs
  have above := @le_roundedUnits t.magnitude seconds.natAbs
  rw [le_iff, units_ofInt]
  refine ⟨⟨isNaN_ofInt seconds, number⟩, ?_⟩
  unfold units at h ⊢
  split_ifs at * <;> omega

theorem le_ofInt {seconds : ℤ} {t : Timestamp} (number : t.isNaN = false)
    (h : t.units ≤ seconds * unitsPerSecond) : t.le (ofInt seconds) := by
  have magnitude : t.magnitude ≤ infiniteMagnitude := Nat.not_lt.mp (of_decide_eq_false number)
  have exact := natAbs_mul_unitsPerSecond seconds
  have below := @roundedUnits_le t.magnitude seconds.natAbs
  have above := @le_roundedUnits t.magnitude seconds.natAbs
  rw [le_iff, units_ofInt]
  refine ⟨⟨number, isNaN_ofInt seconds⟩, ?_⟩
  unfold units at h ⊢
  split_ifs at * <;> omega

end Timestamp

namespace Interval

/-- A timestamp between two seconds, these included, is in the interval of the two. -/
theorem contains_of_exact {start stop : Seconds} {t : Timestamp} (number : t.isNaN = false)
    (begun : start.toInt * Timestamp.unitsPerSecond ≤ t.units)
    (lasting : t.units ≤ stop.toInt * Timestamp.unitsPerSecond) :
    (Interval.mk start (some stop)).contains t := by
  rw [contains, Bool.and_eq_true]
  exact ⟨Timestamp.ofInt_le number begun, Timestamp.le_ofInt number lasting⟩

end Interval

end RouteFeed
