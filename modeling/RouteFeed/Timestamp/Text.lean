import RouteFeed.Numeral
import RouteFeed.Timestamp.Rounding

/-!
# Timestamps in decimal

Three texts of a timestamp are in use: six decimals, correctly rounded from the exact value; the
fewest digits that read back as the same double, positional throughout; and the same digits with an
exponent for very large and very small values.

The fewest digits are found on the grids of one, two, … seventeen digits. On each grid the two
points next to the value are tried; the first grid with a point that rounds back to the value wins,
and of two such points the nearer.

## Main definitions

* `Timestamp.fixed` — a given number of decimals
* `Timestamp.Digits`, `Timestamp.shortest?` — the fewest digits
* `Timestamp.plain`, `Timestamp.exponential` — the two texts of these digits
-/

namespace RouteFeed.Timestamp

/-- A sign for negative bit patterns, the negative zero included. -/
def signText (t : Timestamp) : String := if t.isNegative then "-" else ""

/-- The names of the values that have no digits. -/
def specialText? (t : Timestamp) : Option String :=
  if t.isNaN then some "NaN"
  else if t.isFinite then none
  else some (t.signText ++ "inf")

/-- `n` written with at least `width` digits. -/
def padded (width n : Nat) : List Char :=
  let ds := Numeral.digits n
  List.replicate (width - ds.length) '0' ++ ds

/-- A timestamp with a fixed number of decimals, correctly rounded; a tie goes to the even digit. -/
def fixed (places : Nat) (t : Timestamp) : String :=
  match t.specialText? with
  | some text => text
  | none =>
    let scaled := roundHalfEven (unitsOfMagnitude t.magnitude * tenTo places) unitsPerSecond
    let whole := Numeral.printNat (scaled / tenTo places)
    if places = 0 then t.signText ++ whole
    else t.signText ++ whole ++ "." ++ String.ofList (padded places (scaled % tenTo places))

/-- The number `digits * 10 ^ exponent`. -/
structure Digits where
  /-- The decimal digits, as a number. -/
  digits : Nat
  /-- The power of ten of the last digit. -/
  exponent : Int
deriving DecidableEq, Repr

/-- The least `j ≤ fuel` with `den ≤ num * 10 ^ j`, counted from `j`. -/
def scaleUp (num den : Nat) : Nat → Nat → Nat
  | 0, j => j
  | fuel + 1, j => if den ≤ num * tenTo j then j else scaleUp num den fuel (j + 1)

/-- The power of ten of the first digit of `num / den`. -/
def leadingPower (num den : Nat) : Int :=
  if den ≤ num then ((Numeral.digits (num / den)).length : Int) - 1
  else -(scaleUp num den 400 1 : Int)

/-- The grid point of `count` digits that reads back as the value of magnitude `m`, if one of the
two points next to the value does. All lengths are in units of 2 ^ -1075. -/
def gridPoint? (m count : Nat) : Option Digits :=
  let value := 2 * unitsOfMagnitude m
  let low := unitsOfMagnitude (m - 1) + unitsOfMagnitude m
  let high := unitsOfMagnitude m + unitsOfMagnitude (m + 1)
  let one := 2 * unitsPerSecond
  let step : Int := leadingPower value one - (count - 1 : Nat)
  -- the grid point `c` is `c * mult / div` units away from zero
  let mult := one * tenTo step.toNat
  let div := tenTo (-step).toNat
  let c := value * div / mult
  let reads (c : Nat) : Bool :=
    let x := c * mult
    if m % 2 = 0 then low * div ≤ x && x ≤ high * div else low * div < x && x < high * div
  let below := value * div - c * mult
  let above := (c + 1) * mult - value * div
  match reads c, reads (c + 1) with
  | true, true =>
    some ⟨if below < above ∨ (below = above ∧ c % 2 = 0) then c else c + 1, step⟩
  | true, false => some ⟨c, step⟩
  | false, true => some ⟨c + 1, step⟩
  | false, false => none

/-- Moves trailing zeros into the exponent. -/
def Digits.trim : Nat → Digits → Digits
  | 0, d => d
  | fuel + 1, d =>
    if d.digits % 10 = 0 ∧ d.digits ≠ 0 then Digits.trim fuel ⟨d.digits / 10, d.exponent + 1⟩ else d

/-- The fewest digits that read back as the value of magnitude `m`. -/
def shortest? (m : Nat) : Option Digits :=
  if m = 0 then some ⟨0, 0⟩
  else ((List.range 17).findSome? fun k => gridPoint? m (k + 1)).map (Digits.trim 20)

/-- Digits in positional notation: `whole` is what an integer gets appended. -/
def Digits.positional (d : Digits) (whole : String) : String :=
  let ds := Numeral.digits d.digits
  if 0 ≤ d.exponent then
    String.ofList (ds ++ List.replicate d.exponent.toNat '0') ++ whole
  else
    let places := (-d.exponent).toNat
    let padded := List.replicate (places + 1 - ds.length) '0' ++ ds
    String.ofList (padded.take (padded.length - places)) ++ "." ++
      String.ofList (padded.drop (padded.length - places))

/-- Digits with one digit before the point and an exponent. -/
def Digits.scientific (d : Digits) : String :=
  let ds := Numeral.digits d.digits
  let power := d.exponent + ((ds.length : Int) - 1)
  let fraction := if ds.length ≤ 1 then "" else "." ++ String.ofList (ds.drop 1)
  String.ofList (ds.take 1) ++ fraction ++ "e" ++ Numeral.print power

/-- The fewest digits, positional throughout, an integer without a point. -/
def plain (t : Timestamp) : String :=
  match t.specialText?, shortest? t.magnitude with
  | some text, _ => text
  | none, some d => t.signText ++ d.positional ""
  | none, none => t.signText

/-- The fewest digits, an integer with `.0`, and with an exponent from 10 ^ 16 on and below
10 ^ -5. -/
def exponential (t : Timestamp) : String :=
  match t.specialText?, shortest? t.magnitude with
  | some text, _ => text
  | none, none => t.signText
  | none, some d =>
    let point := d.exponent + (Numeral.digits d.digits).length
    t.signText ++
      (if -5 < point ∧ point ≤ 16 then d.positional ".0" else d.scientific)

end RouteFeed.Timestamp
