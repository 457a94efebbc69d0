import Mathlib.Data.List.Basic
import Mathlib.Tactic.IntervalCases
import RouteFeed.Cursor

/-!
# Numerals are read as they were printed

Printing a number and reading the numeral gives the number again. So a time that a catalogue gives
out as a cursor is the time that it goes on from.

## Main results

* `Numeral.nat?_digits` — reading the digits of a natural number
* `Numeral.seconds?_print` — reading the numeral of a time
* `Cursor.time_ofTime` — the time that the cursor of a time stands for
-/

namespace RouteFeed

namespace Numeral

theorem digit?_digit {d : ℕ} (h : d < 10) : digit? (digit d) = some d := by
  interval_cases d <;> decide

theorem natFrom?_append (acc : ℕ) (cs : List Char) (c : Char) :
    natFrom? acc (cs ++ [c]) =
      (natFrom? acc cs).bind fun value => (digit? c).map fun d => value * 10 + d := by
  induction cs generalizing acc with
  | nil => cases h : digit? c <;> simp [natFrom?, h]
  | cons c' cs ih =>
    rw [List.cons_append, natFrom?, natFrom?]
    cases digit? c' with
    | none => rfl
    | some d => exact ih (acc * 10 + d)

theorem natFrom?_digits (n : ℕ) : natFrom? 0 (digits n) = some n := by
  fun_induction digits n with
  | case1 n small => simp [natFrom?, digit?_digit small]
  | case2 n large ih =>
    rw [natFrom?_append, ih, digit?_digit (Nat.mod_lt n (by decide))]
    simp only [Option.bind_some, Option.map_some, Option.some.injEq]
    omega

/-- The digits of a number start with a digit. -/
theorem exists_digits_eq (n : ℕ) : ∃ d < 10, ∃ rest, digits n = digit d :: rest := by
  fun_induction digits n with
  | case1 n small => exact ⟨n, small, [], rfl⟩
  | case2 n large ih =>
    obtain ⟨d, hd, rest, eq⟩ := ih
    exact ⟨d, hd, rest ++ [digit (n % 10)], by rw [eq, List.cons_append]⟩

theorem nat?_digits (n : ℕ) : nat? (digits n) = some n := by
  obtain ⟨d, -, rest, eq⟩ := exists_digits_eq n
  have value := natFrom?_digits n
  rw [eq] at value ⊢
  exact value

theorem int?_digits (n : ℕ) : int? (digits n) = some (n : ℤ) := by
  have value := nat?_digits n
  obtain ⟨d, hd, rest, eq⟩ := exists_digits_eq n
  rw [eq] at value ⊢
  -- a digit is none of the two signs
  have plain : int? (digit d :: rest) = (nat? (digit d :: rest)).map Int.ofNat := by
    interval_cases d <;> rfl
  rw [plain, value]
  rfl

theorem int?_print (n : ℤ) : int? (print n).toList = some n := by
  rw [print, String.toList_ofList]
  split_ifs with negative
  · rw [List.singleton_append, int?, nat?_digits]
    show some (-(n.natAbs : ℤ)) = some n
    rw [Int.ofNat_natAbs_of_nonpos negative.le, Int.neg_neg]
  · rw [List.nil_append, int?_digits, Int.natAbs_of_nonneg (Int.not_lt.mp negative)]

theorem ofInt?_toInt (t : Seconds) : Seconds.ofInt? t.toInt = some t := by
  have range : Seconds.least.toInt ≤ t.toInt ∧ t.toInt ≤ Seconds.greatest.toInt :=
    ⟨t.minValue_le_toInt, t.toInt_le⟩
  rw [Seconds.ofInt?, if_pos range, Int64.ofInt_toInt]

/-- Reading the numeral of a time gives the time. -/
theorem seconds?_print (t : Seconds) : seconds? (print t.toInt) = some t := by
  rw [seconds?, int?_print, Option.bind_some, ofInt?_toInt]

end Numeral

theorem Cursor.time_start : Cursor.start.time = .ok none := rfl

/-- The cursor of a time stands for this time. -/
theorem Cursor.time_ofTime (t : Seconds) : (Cursor.ofTime t).time = .ok (some t) := by
  simp [ofTime, ofText, time, Numeral.seconds?_print]

end RouteFeed
