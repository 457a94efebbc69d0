import RouteFeed.Numeral
import RouteFeed.Text.Blank

/-!
# Times of the calendar

People may write a time as a number of seconds, in the form of RFC 3339 with an offset from
universal time, or as date and time of day in universal time. The years are those of the Gregorian
calendar, which is extended to all times.

## Main definitions

* `Calendar.dayNumber` — the days from the start of 1970 to a date
* `Calendar.rfc3339?` — a time such as `2021-10-01T00:00:00+02:00`
* `Calendar.plain?` — a time such as `2021-10-01 00:00:00`, in universal time
* `Calendar.seconds?` — a time in any of the three forms
-/

namespace RouteFeed.Calendar

/-- A year that is divisible by 4 is a leap year, unless it is divisible by 100 and not by 400. -/
def isLeap (year : Int) : Bool :=
  year % 4 = 0 && (year % 100 ≠ 0 || year % 400 = 0)

/-- The days of the months of a year. -/
def monthLengths (year : Int) : List Nat :=
  [31, if isLeap year then 29 else 28, 31, 30, 31, 30, 31, 31, 30, 31, 30, 31]

/-- The days from the start of the year 0 to the start of a year. -/
def daysBeforeYear (year : Int) : Int :=
  let past := year - 1
  365 * year + past / 4 - past / 100 + past / 400 + 1

/-- The days from the start of 1970 to a date. -/
def dayNumber (year : Int) (month day : Nat) : Int :=
  daysBeforeYear year - daysBeforeYear 1970 +
    (((monthLengths year).take (month - 1)).foldl (· + ·) (day - 1) : Nat)

/-- A date of the calendar and a time of day, to the second. -/
structure DateTime where
  /-- The year; the year 0 stands before the year 1. -/
  year : Int
  /-- The month, from 1. -/
  month : Nat
  /-- The day of the month, from 1. -/
  day : Nat
  /-- The hour. -/
  hour : Nat
  /-- The minute. -/
  minute : Nat
  /-- The second; 60 in a minute with a leap second. -/
  second : Nat
deriving DecidableEq, Repr

namespace DateTime

/-- Whether date and time exist, in the years that the library covers. -/
def isValid (t : DateTime) : Bool :=
  -262143 ≤ t.year && t.year ≤ 262142 && 1 ≤ t.month && t.month ≤ 12 && 1 ≤ t.day &&
    t.day ≤ (monthLengths t.year).getD (t.month - 1) 0 &&
    t.hour < 24 && t.minute < 60 && t.second ≤ 60

/-- The seconds from the start of 1970; a leap second counts as the second before it. -/
def seconds (t : DateTime) : Int :=
  dayNumber t.year t.month t.day * 86400 + (t.hour * 3600 + t.minute * 60 + min t.second 59 : Nat)

end DateTime

/-- What is left of a text, and what has been read from it. -/
abbrev Step (α : Type) := List Char → Option (α × List Char)

/-- Reads one given character. -/
def char (c : Char) : Step Unit
  | d :: rest => if c = d then some ((), rest) else none
  | [] => none

/-- Reads a number of at least `least` and at most `most` digits, as many as there are. -/
def number (least most : Nat) : Step Nat := fun cs =>
  let ds := (cs.take most).takeWhile fun c => (Numeral.digit? c).isSome
  if ds.length < least then none
  else (Numeral.nat? ds).map fun n => (n, cs.drop ds.length)

/-- Reads digits behind a point, if there is a point. -/
def decimals : Step Unit
  | '.' :: rest => (number 1 rest.length rest).map fun r => ((), r.2)
  | cs => some ((), cs)

/-- Reads an offset from universal time, in seconds. -/
def offset : Step Int
  | 'Z' :: rest | 'z' :: rest => some (0, rest)
  | sign :: rest => do
    let negative ←
      if sign = '+' then some false
      else if sign = '-' ∨ sign = '−' then some true else none
    let (hours, rest) ← number 2 2 rest
    let (_, rest) ← char ':' rest
    let (minutes, rest) ← number 2 2 rest
    let size := hours * 3600 + minutes * 60
    if minutes < 60 ∧ size < 86400 then
      some (if negative then -(size : Int) else size, rest)
    else none
  | [] => none

/-- The seconds of a time in the form of RFC 3339. -/
def rfc3339? (text : String) : Option Int := do
  let (year, cs) ← number 4 4 text.toList
  let (_, cs) ← char '-' cs
  let (month, cs) ← number 2 2 cs
  let (_, cs) ← char '-' cs
  let (day, cs) ← number 2 2 cs
  let (_, cs) ← char 'T' cs <|> char 't' cs <|> char ' ' cs
  let (hour, cs) ← number 2 2 cs
  let (_, cs) ← char ':' cs
  let (minute, cs) ← number 2 2 cs
  let (_, cs) ← char ':' cs
  let (second, cs) ← number 2 2 cs
  let (_, cs) ← decimals cs
  let (shift, cs) ← offset cs
  let t : DateTime := ⟨year, month, day, hour, minute, second⟩
  if t.isValid ∧ cs.isEmpty then some (t.seconds - shift) else none

/-- Reads a year: four digits at most, or any number of them behind a sign. -/
def signedYear : Step Int
  | '-' :: rest => (number 1 rest.length rest).map fun r => (-(r.1 : Int), r.2)
  | '+' :: rest => (number 1 rest.length rest).map fun r => (r.1, r.2)
  | cs => (number 1 4 cs).map fun r => (r.1, r.2)

/-- Reads one or two digits behind any blanks. -/
def field : Step Nat := fun cs => number 1 2 (cs.dropWhile isBlank)

/-- The seconds of a date and a time of day in universal time. -/
def plain? (text : String) : Option Int := do
  let (year, cs) ← signedYear (text.toList.dropWhile isBlank)
  let (_, cs) ← char '-' cs
  let (month, cs) ← field cs
  let (_, cs) ← char '-' cs
  let (day, cs) ← field cs
  let (hour, cs) ← field cs
  let (_, cs) ← char ':' cs
  let (minute, cs) ← field cs
  let (_, cs) ← char ':' cs
  let (second, cs) ← field cs
  let t : DateTime := ⟨year, month, day, hour, minute, second⟩
  if t.isValid ∧ cs.isEmpty then some t.seconds else none

/-- The time that a text writes in one of the three forms. -/
def seconds? (text : String) : Option Seconds :=
  match Numeral.seconds? text with
  | some n => some n
  | none => ((rfc3339? text).orElse fun _ => plain? text).bind Seconds.ofInt?

end RouteFeed.Calendar
