import RouteFeed.Numeral
import RouteFeed.Timestamp.Text

/-!
# Quantities

The numbers of a database are integers of 64 bits and real numbers. A sum of integers that leaves
their range goes on as a real number. The text of a number may have a point and an exponent; one
without either is an integer if it is in range.

## Main definitions

* `Quantity`, `Quantity.add?` — the numbers and their sum
* `Decimal.Literal`, `Decimal.read?` — numbers as they are written
* `Decimal.Literal.toReal`, `Decimal.Literal.quantity` — what such a text stands for
-/

namespace RouteFeed

/-- A number, in one of the two forms that cells know. -/
inductive Quantity where
  /-- An integer. -/
  | integer (n : Int64)
  /-- A real number. -/
  | real (x : Timestamp)
deriving DecidableEq, Repr

namespace Quantity

/-- The value in units of 2 ^ -1074 seconds. -/
def units : Quantity → Int
  | integer n => n.toInt * Timestamp.unitsPerSecond
  | real x => x.units

/-- The real number nearest to a number. -/
def toReal : Quantity → Timestamp
  | integer n => Timestamp.ofInt n.toInt
  | real x => x

/-- The sum of two real numbers. An infinity stays what it is, and two opposite ones have no sum. -/
def addReals? (x y : Timestamp) : Option Timestamp :=
  if x.isFinite ∧ y.isFinite then some (x.add y)
  else if x.isFinite then some y
  else if y.isFinite ∨ x = y then some x
  else none

/-- The sum: of two integers exactly if it is in range, else as real numbers. -/
def add? (a b : Quantity) : Option Quantity :=
  match a, b with
  | integer m, integer n =>
    match Seconds.ofInt? (m.toInt + n.toInt) with
    | some sum => some (integer sum)
    | none => (addReals? a.toReal b.toReal).map real
  | _, _ => (addReals? a.toReal b.toReal).map real

end Quantity

namespace Decimal

/-- The blanks around numbers in a database. -/
def isSpace (c : Char) : Bool := c = ' ' || ('\t' ≤ c && c ≤ '\r')

/-- A decimal number: digits, the power of ten of the last, and whether it is written as an
integer. -/
structure Literal where
  /-- Whether a minus sign stands in front. -/
  negative : Bool
  /-- The digits, as a number. -/
  digits : Nat
  /-- The power of ten of the last digit. -/
  power : Int
  /-- Whether there is neither a point nor an exponent. -/
  isInteger : Bool

/-- Splits the digits off the start of a text. -/
def splitDigits (cs : List Char) : List Char × List Char :=
  let ds := cs.takeWhile fun c => (Numeral.digit? c).isSome
  (ds, cs.drop ds.length)

/-- The value of a run of digits, zero for none. -/
def valueOf (ds : List Char) : Nat := (Numeral.nat? ds).getD 0

/-- Reads an exponent, if there is a whole one. -/
def exponent (cs : List Char) : Option (Int × List Char) :=
  match cs with
  | e :: rest =>
    if e = 'e' ∨ e = 'E' then
      let (negative, rest) := match rest with
        | '-' :: behind => (true, behind)
        | '+' :: behind => (false, behind)
        | _ => (false, rest)
      let (ds, behind) := splitDigits rest
      if ds.isEmpty then none
      else some (if negative then -(valueOf ds : Int) else valueOf ds, behind)
    else none
  | [] => none

/-- Reads the longest number at the start of a text behind any blanks, and gives what follows. -/
def read? (cs : List Char) : Option (Literal × List Char) :=
  let cs := cs.dropWhile isSpace
  let (negative, cs) := match cs with
    | '-' :: rest => (true, rest)
    | '+' :: rest => (false, rest)
    | _ => (false, cs)
  let (whole, cs) := splitDigits cs
  let (point, fraction, cs) := match cs with
    | '.' :: rest => let (ds, behind) := splitDigits rest; (true, ds, behind)
    | _ => (false, [], cs)
  if whole.isEmpty ∧ fraction.isEmpty then none
  else
    let digits := valueOf (whole ++ fraction)
    match exponent cs with
    | some (power, rest) => some (⟨negative, digits, power - fraction.length, false⟩, rest)
    | none => some (⟨negative, digits, -(fraction.length : Int), !point⟩, cs)

/-- The real number nearest to a decimal number. Powers of ten that are out of the range of real
numbers are cut off there. -/
def Literal.toReal (l : Literal) : Timestamp :=
  let size := (Numeral.digits l.digits).length
  if l.digits = 0 ∨ l.power + size < -400 then Timestamp.ofRatio l.negative 0 1
  else if 400 < l.power + size then Timestamp.ofMagnitude l.negative Timestamp.infiniteMagnitude
  else if 0 ≤ l.power then Timestamp.ofRatio l.negative (l.digits * tenTo l.power.toNat) 1
  else Timestamp.ofRatio l.negative l.digits (tenTo (-l.power).toNat)

/-- The number that a decimal number counts as: an integer if it is written as one and in range. -/
def Literal.quantity (l : Literal) : Quantity :=
  if l.isInteger then
    match Seconds.ofInt? (if l.negative then -(l.digits : Int) else l.digits) with
    | some n => .integer n
    | none => .real l.toReal
  else .real l.toReal

end Decimal

end RouteFeed
