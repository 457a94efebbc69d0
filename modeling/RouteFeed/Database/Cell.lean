import RouteFeed.Database.Quantity

/-!
# Cells of a database

A cell of a database holds nothing, an integer, a real number or a text, whatever the column was
declared as. A column that was declared for one kind of value brings values to that kind when they
are stored, if it can. Numbers are compared by value, every text is greater than every number, and
a comparison with nothing never holds.

## Main definitions

* `Cell` — what a cell may hold
* `Affinity`, `Affinity.store` — how a column changes what is stored in it
* `Cell.quantity` — the number that a cell counts as in a sum
* `Cell.atLeast`, `Cell.atMost` — comparison with an integer
-/

namespace RouteFeed

/-- What a cell may hold. -/
inductive Cell where
  /-- Nothing. -/
  | null
  /-- An integer. -/
  | integer (n : Int64)
  /-- A real number. -/
  | real (x : Timestamp)
  /-- A text. -/
  | text (s : String)
deriving DecidableEq, Repr

namespace Cell

/-- A number as a cell. -/
def ofQuantity : Quantity → Cell
  | .integer n => integer n
  | .real x => real x

/-- The integer that a real number is, if it is one strictly inside the range of integers. -/
def wholeOf? (x : Timestamp) : Option Int64 :=
  if x.isFinite ∧ x.units % Timestamp.unitsPerSecond = 0 then
    let n := x.units / Timestamp.unitsPerSecond
    if Seconds.least.toInt < n ∧ n < Seconds.greatest.toInt then some (Int64.ofInt n) else none
  else none

/-- A real number that is an integer becomes that integer. -/
def preferInteger : Cell → Cell
  | real x => match wholeOf? x with
    | some n => integer n
    | none => real x
  | cell => cell

/-- The number that a cell counts as in a sum; of a text its longest numeral at the start counts,
and nothing counts as nothing. -/
def quantity : Cell → Option Quantity
  | null => none
  | integer n => some (.integer n)
  | real x => some (.real x)
  | text s =>
    match Decimal.read? s.toList with
    | some (l, _) => some l.quantity
    | none => some (.integer 0)

/-- The cell is not less than an integer. -/
def atLeast (cell : Cell) (bound : Int64) : Bool :=
  match cell with
  | null => false
  | integer n => decide (bound ≤ n)
  | real x => decide ((Quantity.integer bound).units ≤ x.units)
  | text _ => true

/-- The cell is not greater than an integer. -/
def atMost (cell : Cell) (bound : Int64) : Bool :=
  match cell with
  | null => false
  | integer n => decide (n ≤ bound)
  | real x => decide (x.units ≤ (Quantity.integer bound).units)
  | text _ => false

/-- The cell is greater than an integer. -/
def exceeds (cell : Cell) (bound : Int64) : Bool := cell ≠ .null && !cell.atMost bound

/-- The cell holds the integer. -/
def integer? : Cell → Option Int64
  | integer n => some n
  | _ => none

/-- The cell holds the text. -/
def text? : Cell → Option String
  | text s => some s
  | _ => none

end Cell

/-- How a column changes what is stored in it. -/
inductive Affinity where
  /-- Numbers become texts. -/
  | text
  /-- Numerals become numbers, and real numbers integers where they are integers. -/
  | integer
deriving DecidableEq, Repr

/-- A real number with fifteen digits at most, and at least one behind the point. -/
def fifteenDigits (x : Timestamp) : String :=
  match x.specialText? with
  | some text => text
  | none =>
    let value := Timestamp.unitsOfMagnitude x.magnitude
    if value = 0 then "0.0"
    else
      let power := Timestamp.leadingPower value Timestamp.unitsPerSecond
      let digitsAt (step : Int) : Nat :=
        roundHalfEven (value * tenTo (-step).toNat) (Timestamp.unitsPerSecond * tenTo step.toNat)
      let rounded := digitsAt (power - 14)
      let d := Timestamp.Digits.trim 20 ⟨rounded, power - 14⟩
      let size := (Numeral.digits d.digits).length
      let lead := d.exponent + (size : Int) - 1
      if -5 < lead ∧ lead < 15 then x.signText ++ d.positional ".0"
      else
        let ds := Numeral.digits d.digits
        let fraction := if size ≤ 1 then "0" else String.ofList (ds.drop 1)
        let tail := Timestamp.padded 2 lead.natAbs
        x.signText ++ String.ofList (ds.take 1) ++ "." ++ fraction ++
          (if lead < 0 then "e-" else "e+") ++ String.ofList tail

/-- What a column stores for a value. -/
def Affinity.store (affinity : Affinity) (cell : Cell) : Cell :=
  match affinity, cell with
  | .text, .integer n => .text (Numeral.print n.toInt)
  | .text, .real x => .text (fifteenDigits x)
  | .integer, .real x => (Cell.real x).preferInteger
  | .integer, .text s =>
    match Decimal.read? s.toList with
    | some (l, rest) =>
      if (rest.dropWhile Decimal.isSpace).isEmpty then
        (Cell.ofQuantity l.quantity).preferInteger
      else cell
    | none => cell
  | _, _ => cell

end RouteFeed
