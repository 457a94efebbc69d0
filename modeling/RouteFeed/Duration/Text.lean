import RouteFeed.Duration.Basic
import RouteFeed.Numeral
import RouteFeed.Text.Blank

/-!
# Durations in words

A duration is written as a series of terms, each a number and a unit, such as `1 h 30 min`. The
number may have a fraction, blanks may stand between digits, and a unit ends at a blank or at the
digit of the next term. All numbers are read into 64 bits, and a value that needs more than that,
or that is no whole number of nanoseconds, is refused.

The text is read one character at a time. A `Stage` says what has been read of the present term;
an error names a place, which is the number of bytes in front of it.

## Main definitions

* `DurationError` — what can be wrong with such a text, and its wording
* `TimeUnit`, `TimeUnit.ofName?` — the units
* `Duration.read` — the duration that a text writes
-/

namespace RouteFeed

/-- What can be wrong with the text of a duration. -/
inductive DurationError where
  /-- A character that no term can hold, after so many bytes. -/
  | invalidCharacter (offset : Nat)
  /-- A term that starts with something else than a digit, after so many bytes. -/
  | numberExpected (offset : Nat)
  /-- A unit that nobody knows, or no unit at all, behind a number. -/
  | unknownUnit (unit : String) (number : Nat)
  /-- A number that is too large or too fine. -/
  | numberOverflow
  /-- No term at all. -/
  | empty
deriving DecidableEq, Repr

/-- The sentence that describes the error. -/
def DurationError.message : DurationError → String
  | invalidCharacter offset => "invalid character at " ++ Numeral.printNat offset
  | numberExpected offset => "expected number at " ++ Numeral.printNat offset
  | unknownUnit unit number =>
    if unit.isEmpty then
      let n := Numeral.printNat number
      "time unit needed, for example " ++ n ++ "sec or " ++ n ++ "ms"
    else
      "unknown time unit \"" ++ unit ++ "\", supported units: ns, us/µs, ms, sec, min, hours, " ++
        "days, weeks, months, years (and few variations)"
  | numberOverflow =>
    "number is too large or cannot be represented without a lack of precision " ++
      "(values below 1ns are not supported)"
  | empty => "value was empty"

/-- The units of time. A month and a year are the twelfth part of, and, 365.25 days. -/
inductive TimeUnit where
  /-- A nanosecond. -/
  | nanosecond
  /-- A microsecond. -/
  | microsecond
  /-- A millisecond. -/
  | millisecond
  /-- A second. -/
  | second
  /-- A minute. -/
  | minute
  /-- An hour. -/
  | hour
  /-- A day. -/
  | day
  /-- A week. -/
  | week
  /-- A month. -/
  | month
  /-- A year. -/
  | year
deriving DecidableEq, Repr

namespace TimeUnit

/-- Every unit with the names that it goes by. -/
def names : List (TimeUnit × List String) :=
  [(nanosecond, ["nanos", "nsec", "ns"]),
   (microsecond, ["usec", "us", "µs"]),
   (millisecond, ["millis", "msec", "ms"]),
   (second, ["seconds", "second", "secs", "sec", "s"]),
   (minute, ["minutes", "minute", "min", "mins", "m"]),
   (hour, ["hours", "hour", "hrs", "hr", "h"]),
   (day, ["days", "day", "d"]),
   (week, ["weeks", "week", "wk", "wks", "w"]),
   (month, ["months", "month", "M"]),
   (year, ["years", "year", "yrs", "yr", "y"])]

/-- The unit that goes by a name. -/
def ofName? (name : String) : Option TimeUnit :=
  (names.find? fun entry => entry.2.contains name).map Prod.fst

/-- Whether a unit is counted in nanoseconds rather than in seconds. -/
def isFine : TimeUnit → Bool
  | nanosecond | microsecond | millisecond => true
  | _ => false

/-- The number of nanoseconds of a fine unit and of seconds of any other. -/
def factor : TimeUnit → Nat
  | nanosecond => 1
  | microsecond => 1000
  | millisecond => 1000000
  | second => 1
  | minute => 60
  | hour => 3600
  | day => 86400
  | week => 604800
  | month => 2630016
  | year => 31557600

end TimeUnit

namespace Duration

/-- A number that fits in 64 bits. -/
def checkWord (n : Nat) : Except DurationError Nat :=
  if n < UInt64.size then .ok n else .error .numberOverflow

/-- A fraction, as its digits and the power of ten below them. -/
structure Fraction where
  /-- The digits, as a number. -/
  numerator : Nat
  /-- A power of ten; one as long as there is no digit. -/
  denominator : Nat
deriving DecidableEq, Repr

/-- The exact quotient of two numbers that fit in 64 bits. -/
def quotient (num den : Nat) : Except DurationError Nat := do
  let num ← checkWord num
  if num % den = 0 then .ok (num / den) else .error .numberOverflow

/-- Adds seconds and nanoseconds to a total. -/
def addParts (total : Duration) (seconds nanos : Nat) : Except DurationError Duration := do
  let nanos ← checkWord (total.subNanos + nanos)
  let _ ← checkWord (total.seconds + seconds + nanos / nanosPerSecond)
  .ok (ofParts (total.seconds + seconds) nanos)

/-- Adds the whole part of a term to a total. -/
def addWhole (total : Duration) (n : Nat) (unit : TimeUnit) : Except DurationError Duration := do
  let amount ← checkWord (n * unit.factor)
  if unit.isFine then total.addParts 0 amount else total.addParts amount 0

/-- Adds the fraction of a term to a total. Seconds and minutes have fractions of any whole number
of nanoseconds, longer units of whole seconds only, and a nanosecond has none. -/
def addFraction (total : Duration) (f : Fraction) (unit : TimeUnit) :
    Except DurationError Duration := do
  match unit with
  | .nanosecond => .error .numberOverflow
  | .microsecond | .millisecond =>
    total.addParts 0 (← quotient (f.numerator * unit.factor) f.denominator)
  | .second | .minute =>
    total.addParts 0 (← quotient (f.numerator * (unit.factor * nanosPerSecond)) f.denominator)
  | _ => total.addParts (← quotient (f.numerator * unit.factor) f.denominator) 0

/-- Adds a whole term to a total; the letters of its unit are given last first. -/
def addTerm (total : Duration) (n : Nat) (fraction? : Option Fraction) (letters : List Char) :
    Except DurationError Duration := do
  let name := String.ofList letters.reverse
  match TimeUnit.ofName? name with
  | none => .error (.unknownUnit name n)
  | some unit =>
    let total ← total.addWhole n unit
    match fraction? with
    | none => .ok total
    | some f => total.addFraction f unit

/-- The letters that units are written in. -/
def isUnitLetter (c : Char) : Bool := c.isAlpha || c = 'µ'

/-- What has been read of the present term. -/
inductive Stage where
  /-- Nothing; the place is where the blanks in front of it start. -/
  | gap (start : Nat) (first : Bool)
  /-- The whole part so far, and the place behind it. -/
  | whole (n : Nat) (place : Nat)
  /-- The whole part, a point and the fraction so far, and the place behind the last digit. -/
  | fraction (n : Nat) (f : Fraction) (place : Nat)
  /-- A number and the letters of its unit, last first. -/
  | unit (n : Nat) (fraction? : Option Fraction) (letters : List Char)
deriving Repr

/-- Reads on from a stage. `place` is the number of bytes read. -/
def readFrom (total : Duration) (place : Nat) :
    Stage → List Char → Except DurationError Duration
  | .gap _ first, [] => if first then .error .empty else .ok total
  | .whole n _, [] => addTerm total n none []
  | .fraction n f mark, [] =>
    if f.denominator = 1 then .error (.invalidCharacter mark) else addTerm total n (some f) []
  | .unit n fraction? letters, [] => addTerm total n fraction? letters
  | .gap start first, c :: rest =>
    let next := place + c.utf8Size
    match Numeral.digit? c with
    | some d => readFrom total next (.whole d next) rest
    | none =>
      if isBlank c then readFrom total next (.gap start first) rest
      else .error (.numberExpected start)
  | .whole n mark, c :: rest =>
    let next := place + c.utf8Size
    match Numeral.digit? c with
    | some d => do
      let n ← checkWord (n * 10 + d)
      readFrom total next (.whole n next) rest
    | none =>
      if isBlank c then readFrom total next (.whole n next) rest
      else if isUnitLetter c then readFrom total next (.unit n none [c]) rest
      else if c = '.' then readFrom total next (.fraction n ⟨0, 1⟩ mark) rest
      else .error (.invalidCharacter mark)
  | .fraction n f mark, c :: rest =>
    let next := place + c.utf8Size
    match Numeral.digit? c with
    | some d => do
      let denominator ← checkWord (f.denominator * 10)
      let numerator ← checkWord (f.numerator * 10 + d)
      readFrom total next (.fraction n ⟨numerator, denominator⟩ next) rest
    | none =>
      if isBlank c then readFrom total next (.fraction n f next) rest
      else if ¬ isUnitLetter c then .error (.invalidCharacter mark)
      else if f.denominator = 1 then .error (.invalidCharacter mark)
      else readFrom total next (.unit n (some f) [c]) rest
  | .unit n fraction? letters, c :: rest =>
    let next := place + c.utf8Size
    match Numeral.digit? c with
    | some d => do
      let total ← addTerm total n fraction? letters
      readFrom total next (.whole d next) rest
    | none =>
      if isBlank c then do
        let total ← addTerm total n fraction? letters
        readFrom total next (.gap next false) rest
      else if isUnitLetter c then readFrom total next (.unit n fraction? (c :: letters)) rest
      else .error (.invalidCharacter place)

/-- The duration that a text writes; a lone zero needs no unit. -/
def read (text : String) : Except DurationError Duration :=
  if text = "0" then .ok zero else readFrom zero 0 (.gap 0 true) text.toList

end Duration

end RouteFeed
