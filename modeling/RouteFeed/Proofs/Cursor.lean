import Mathlib.Data.Nat.Digits.Defs
import RouteFeed.Proofs.Numeral

/-!
# Cursors of times

A catalogue keeps its place as a text, and this text has to bring it back to the same time. The
numerals that stand for integers are described by their form alone: an optional sign, at least one
digit, and nothing else, where each digit counts ten times as much as the one behind it. Leading
zeros are allowed, so a time has many numerals, and the one that is printed is one of them. Reading
accepts just the numerals of integers in the range of times, and refuses every other text.

## Main definitions

* `Numeral.IsRun`, `Numeral.Writes` — digits that give a natural number, and numerals of integers

## Main results

* `Numeral.int?_eq_some_iff` — what is read as an integer
* `Numeral.seconds?_eq_some_iff`, `Numeral.seconds?_eq_none_iff` — what is read as a time
* `Cursor.times_read_back` — the cursors of times, and all others
-/

namespace RouteFeed

namespace Numeral

variable {cs : List Char} {c : Char} {k : ℤ} {n d : ℕ}

/-! ## The form of numerals -/

/-- Characters are digits, at least one, that give a natural number. -/
def IsRun (n : ℕ) (cs : List Char) : Prop :=
  ∃ ds : List ℕ, ds ≠ [] ∧ (∀ d ∈ ds, d < 10) ∧ cs = ds.map Nat.digitChar ∧
    n = Nat.ofDigits 10 ds.reverse

/-- Characters are the numeral of an integer. -/
inductive Writes : List Char → ℤ → Prop where
  /-- Digits without a sign. -/
  | unsigned {n : ℕ} {cs : List Char} (run : IsRun n cs) : Writes cs n
  /-- Digits behind a plus. -/
  | plus {n : ℕ} {cs : List Char} (run : IsRun n cs) : Writes ('+' :: cs) n
  /-- Digits behind a minus. -/
  | minus {n : ℕ} {cs : List Char} (run : IsRun n cs) : Writes ('-' :: cs) (-n)

/-! ## Digits -/

theorem digit?_eq_some_iff : digit? c = some d ↔ d < 10 ∧ c = Nat.digitChar d := by
  constructor
  · intro read
    simp only [digit?, Option.ite_none_right_eq_some, Option.some.injEq, Char.le_def,
      UInt32.le_iff_toNat_le, Char.toNat_val, Char.reduceToNat] at read
    obtain ⟨⟨low, high⟩, rfl⟩ := read
    have small : c.toNat - 48 < 10 := by omega
    refine ⟨small, Char.toNat_inj.mp ?_⟩
    rw [Nat.toNat_digitChar_of_lt_ten small]
    omega
  · rintro ⟨small, rfl⟩
    interval_cases d <;> decide

/-- No digit is a sign. -/
theorem digitChar_ne_sign (small : d < 10) : Nat.digitChar d ≠ '-' ∧ Nat.digitChar d ≠ '+' := by
  interval_cases d <;> decide

/-- Going on with a number reads digits only, and each of them moves the others one place up. -/
theorem natFrom?_eq_some_iff {acc : ℕ} : natFrom? acc cs = some n ↔
    ∃ ds : List ℕ, (∀ d ∈ ds, d < 10) ∧ cs = ds.map Nat.digitChar ∧
      n = ds.foldl (fun value d => value * 10 + d) acc := by
  -- over the characters, for all numbers read so far, as each digit changes this number
  induction cs generalizing acc with
  | nil =>
    constructor
    · intro read
      exact ⟨[], by simp, rfl, (Option.some.inj read).symm⟩
    · rintro ⟨ds, -, shape, rfl⟩
      rw [List.map_eq_nil_iff.mp shape.symm]
      rfl
  | cons c cs ih =>
    rw [natFrom?, Option.bind_eq_some_iff]
    constructor
    · rintro ⟨d, here, others⟩
      obtain ⟨small, rfl⟩ := digit?_eq_some_iff.mp here
      obtain ⟨ds, decimal, rfl, value⟩ := ih.mp others
      exact ⟨d :: ds, List.forall_mem_cons.mpr ⟨small, decimal⟩, rfl, value⟩
    · rintro ⟨ds, decimal, shape, value⟩
      obtain ⟨d, ds, rfl, rfl, rfl⟩ := List.map_eq_cons_iff.mp shape.symm
      obtain ⟨small, decimal⟩ := List.forall_mem_cons.mp decimal
      exact ⟨d, digit?_eq_some_iff.mpr ⟨small, rfl⟩, ih.mpr ⟨ds, decimal, rfl, value⟩⟩

theorem ofDigits_reverse (ds : List ℕ) :
    Nat.ofDigits 10 ds.reverse = ds.foldl (fun value d => value * 10 + d) 0 := by
  rw [Nat.ofDigits_eq_foldr, List.foldr_reverse]
  simp only [Nat.cast_id, Nat.add_comm, Nat.mul_comm]

/-! ## Reading numerals -/

/-- A run of digits is read as the number that it gives, and nothing else is read. -/
theorem nat?_eq_some_iff : nat? cs = some n ↔ IsRun n cs := by
  -- only here the empty run counts: going on with a number accepts it
  cases cs with
  | nil =>
    constructor
    · intro read
      cases read
    · rintro ⟨ds, some_digit, -, shape, -⟩
      exact absurd (List.map_eq_nil_iff.mp shape.symm) some_digit
  | cons c cs =>
    have some_digit : ∀ ds : List ℕ, c :: cs = ds.map Nat.digitChar → ds ≠ [] := by
      rintro ds shape rfl
      cases shape
    rw [nat?, natFrom?_eq_some_iff]
    · constructor
      · rintro ⟨ds, decimal, shape, value⟩
        exact ⟨ds, some_digit ds shape, decimal, shape, value.trans (ofDigits_reverse ds).symm⟩
      · rintro ⟨ds, -, decimal, shape, value⟩
        exact ⟨ds, decimal, shape, value.trans (ofDigits_reverse ds)⟩
    · intro nothing
      cases nothing

/-- A run of digits starts with no sign. -/
theorem IsRun.ne_sign (run : IsRun n (c :: cs)) : c ≠ '-' ∧ c ≠ '+' := by
  obtain ⟨ds, -, decimal, shape, -⟩ := run
  obtain ⟨d, ds, rfl, rfl, -⟩ := List.map_eq_cons_iff.mp shape.symm
  exact digitChar_ne_sign (decimal d List.mem_cons_self)

theorem int?_minus (cs : List Char) : int? ('-' :: cs) = (nat? cs).map fun n : ℕ => -(n : ℤ) := by
  rw [int?]
  cases nat? cs <;> rfl

theorem int?_plus (cs : List Char) : int? ('+' :: cs) = (nat? cs).map fun n : ℕ => (n : ℤ) := by
  rw [int?]
  cases nat? cs <;> rfl

theorem int?_unsigned (no_minus : ∀ rest, cs ≠ '-' :: rest) (no_plus : ∀ rest, cs ≠ '+' :: rest) :
    int? cs = (nat? cs).map fun n : ℕ => (n : ℤ) := by
  rw [int?]
  · rfl
  · exact no_minus
  · exact no_plus

/-- Just the numerals of an integer are read as this integer. -/
theorem int?_eq_some_iff : int? cs = some k ↔ Writes cs k := by
  constructor
  · intro read
    fun_cases int? cs with
    | case1 rest =>
      rw [int?_minus] at read
      obtain ⟨n, run, rfl⟩ := Option.map_eq_some_iff.mp read
      exact .minus (nat?_eq_some_iff.mp run)
    | case2 rest =>
      rw [int?_plus] at read
      obtain ⟨n, run, rfl⟩ := Option.map_eq_some_iff.mp read
      exact .plus (nat?_eq_some_iff.mp run)
    | case3 cs no_minus no_plus =>
      rw [int?_unsigned no_minus no_plus] at read
      obtain ⟨n, run, rfl⟩ := Option.map_eq_some_iff.mp read
      exact .unsigned (nat?_eq_some_iff.mp run)
  · intro writes
    cases writes with
    | minus run => rw [int?_minus, nat?_eq_some_iff.mpr run]; rfl
    | plus run => rw [int?_plus, nat?_eq_some_iff.mpr run]; rfl
    | unsigned run =>
      -- no digit is taken for a sign
      rw [int?_unsigned, nat?_eq_some_iff.mpr run]
      · rfl
      · rintro rest rfl
        exact run.ne_sign.1 rfl
      · rintro rest rfl
        exact run.ne_sign.2 rfl

end Numeral

/-! ## Times in range -/

namespace Seconds

variable {k : ℤ} {t : Seconds}

theorem ofInt?_eq_some_iff : ofInt? k = some t ↔ t.toInt = k := by
  constructor
  · intro found
    rw [ofInt?, Option.ite_none_right_eq_some, Option.some.injEq] at found
    obtain ⟨⟨low, high⟩, rfl⟩ := found
    exact Int64.toInt_ofInt_of_le low (Int.lt_add_one_of_le high)
  · rintro rfl
    exact Numeral.ofInt?_toInt t

theorem ofInt?_eq_none_iff : ofInt? k = none ↔ ¬ (-2 ^ 63 ≤ k ∧ k < 2 ^ 63) := by
  have range : (least.toInt ≤ k ∧ k ≤ greatest.toInt) ↔ (-2 ^ 63 ≤ k ∧ k < 2 ^ 63) :=
    and_congr_right' Int.lt_add_one_iff.symm
  rw [ofInt?, ite_eq_right_iff, range]
  simp only [reduceCtorEq, imp_false]

end Seconds

namespace Numeral

variable {text : String} {t : Seconds}

/-- Just the numerals of a time are read as this time. -/
theorem seconds?_eq_some_iff : seconds? text = some t ↔ Writes text.toList t.toInt := by
  rw [seconds?, Option.bind_eq_some_iff]
  constructor
  · rintro ⟨k, read, inRange⟩
    obtain rfl := Seconds.ofInt?_eq_some_iff.mp inRange
    exact int?_eq_some_iff.mp read
  · intro writes
    exact ⟨t.toInt, int?_eq_some_iff.mpr writes, ofInt?_toInt t⟩

/-- A text is refused if no integer in the range of times has it as a numeral. -/
theorem seconds?_eq_none_iff : seconds? text = none ↔
    ∀ k, Writes text.toList k → ¬ (-2 ^ 63 ≤ k ∧ k < 2 ^ 63) := by
  rw [seconds?, Option.bind_eq_none_iff]
  constructor
  · intro refused k writes
    exact Seconds.ofInt?_eq_none_iff.mp (refused k (int?_eq_some_iff.mpr writes))
  · intro outside k read
    exact Seconds.ofInt?_eq_none_iff.mpr (outside k (int?_eq_some_iff.mp read))

end Numeral

/-! ## Cursors -/

namespace Cursor

variable {text : String} {t : Seconds}

theorem time_ofText_eq_ok_iff :
    (ofText text).time = .ok (some t) ↔ Numeral.seconds? text = some t := by
  simp only [ofText, time]
  cases Numeral.seconds? text <;> simp

theorem time_ofText_eq_error_iff :
    (ofText text).time = .error (.misconfigured ("invalid timestamp cursor " ++ text)) ↔
      Numeral.seconds? text = none := by
  simp only [ofText, time]
  cases Numeral.seconds? text <;> simp

/-- **Cursors of times.** The cursor of a time stands for this time, so different times have
different cursors. A cursor stands for a time just if its text is a numeral of it, and is refused
just if its text is a numeral of no integer in the range of times. -/
theorem times_read_back :
    (∀ t : Seconds, (ofTime t).time = .ok (some t)) ∧
    (∀ s t : Seconds, (ofTime s).text? = (ofTime t).text? ↔ s = t) ∧
    ∀ text : String,
      (∀ t : Seconds, (ofText text).time = .ok (some t) ↔
        Numeral.Writes text.toList t.toInt) ∧
      ((ofText text).time = .error (.misconfigured ("invalid timestamp cursor " ++ text)) ↔
        ∀ k : ℤ, Numeral.Writes text.toList k → ¬ (-2 ^ 63 ≤ k ∧ k < 2 ^ 63)) := by
  refine ⟨time_ofTime, fun s t => ⟨fun same => ?_, fun same => by rw [same]⟩, fun text => ⟨?_, ?_⟩⟩
  · have times : (ofTime s).time = (ofTime t).time := by
      rw [time, time, same]
    rw [time_ofTime, time_ofTime] at times
    exact Option.some.inj (Except.ok.inj times)
  · exact fun t => time_ofText_eq_ok_iff.trans Numeral.seconds?_eq_some_iff
  · exact time_ofText_eq_error_iff.trans Numeral.seconds?_eq_none_iff

/-- Zeros and a plus in front do not count. -/
example : (ofText "+007").time = .ok (some 7) := by decide

/-- The first integer behind the range is no time. -/
example : (ofText "9223372036854775808").time =
    .error (.misconfigured "invalid timestamp cursor 9223372036854775808") := by decide

end Cursor

end RouteFeed
