import RouteFeed.Seconds

/-!
# Numerals

Reading and printing of whole numbers in decimal. A numeral is an optional sign and at least one
ASCII digit, with nothing before, between or after; leading zeros are allowed. A printed number has
no sign unless it is negative and no leading zero.

## Main definitions

* `Numeral.digit?`, `Numeral.hexDigit?` — decimal and hexadecimal digits
* `Numeral.digits` — the decimal digits of a natural number
* `Numeral.nat?` — the value of a non-empty run of digits
* `Numeral.print`, `Numeral.int?` — an integer and its text
* `Numeral.seconds?`, `Numeral.word?` — numerals of a 64-bit signed and a 32-bit unsigned number
-/

namespace RouteFeed.Numeral

/-- The value of a decimal digit. -/
def digit? (c : Char) : Option Nat :=
  if '0' ≤ c ∧ c ≤ '9' then some (c.toNat - '0'.toNat) else none

/-- The digit of a number below ten. -/
def digit (n : Nat) : Char := Char.ofNat ('0'.toNat + n)

/-- The value of a hexadecimal digit, small or capital. -/
def hexDigit? (c : Char) : Option Nat :=
  match digit? c with
  | some d => some d
  | none =>
    if 'a' ≤ c ∧ c ≤ 'f' then some (c.toNat - 'a'.toNat + 10)
    else if 'A' ≤ c ∧ c ≤ 'F' then some (c.toNat - 'A'.toNat + 10) else none

/-- The hexadecimal digit of a number below sixteen. -/
def hexDigit (n : Nat) : Char := if n < 10 then digit n else Char.ofNat ('a'.toNat + (n - 10))

/-- The decimal digits of a number, most significant first. -/
def digits (n : Nat) : List Char :=
  if n < 10 then [digit n] else digits (n / 10) ++ [digit (n % 10)]
termination_by n
decreasing_by omega

/-- Continues a number that has the value `acc` so far with a run of digits. -/
def natFrom? (acc : Nat) : List Char → Option Nat
  | [] => some acc
  | c :: rest => (digit? c).bind fun d => natFrom? (acc * 10 + d) rest

/-- The value of a non-empty run of decimal digits. -/
def nat? : List Char → Option Nat
  | [] => none
  | cs => natFrom? 0 cs

/-- The value of an optional sign and a run of digits. -/
def int? : List Char → Option Int
  | '-' :: rest => (nat? rest).map fun n => -(n : Int)
  | '+' :: rest => (nat? rest).map Int.ofNat
  | cs => (nat? cs).map Int.ofNat

/-- The text of an integer. -/
def print (n : Int) : String :=
  String.ofList ((if n < 0 then ['-'] else []) ++ digits n.natAbs)

/-- The text of a natural number. -/
def printNat (n : Nat) : String := String.ofList (digits n)

/-- The time that a numeral writes, if it is in range. -/
def seconds? (text : String) : Option Seconds := (int? text.toList).bind Seconds.ofInt?

/-- The unsigned 32-bit number that a numeral without a minus sign writes. -/
def word? (text : String) : Option UInt32 :=
  let cs := text.toList
  let run := match cs with
    | '+' :: rest => rest
    | _ => cs
  (nat? run).bind fun n => if n < UInt32.size then some (UInt32.ofNat n) else none

end RouteFeed.Numeral
