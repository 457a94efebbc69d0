import RouteFeed.Numeral
import RouteFeed.Pattern.Basic
import RouteFeed.Pattern.Flags
import RouteFeed.Pattern.Property

/-!
# Escapes in patterns

A backslash gives the character behind it another meaning: a character that cannot be written
otherwise, a class of characters, or a condition. Back references do not exist.

## Main definitions

* `Atom` — what an escape stands for
* `Atom.escape?` — reads an escape
-/

namespace RouteFeed

/-- The smallest unit of a pattern. -/
inductive Atom where
  /-- A character that stands for itself. -/
  | char (c : Char)
  /-- A class of characters. -/
  | set (s : CharSet)
  /-- A condition. -/
  | condition (condition : Condition)
deriving Repr

/-- A reader of an escape gives what the escape stands for, and the text behind it. -/
abbrev EscapeReader := Flags → List Char → Option (Atom × List Char)

/-- The character with a number that is written in hexadecimal digits. -/
def charOfHex? (ds : List Char) : Option Char := do
  if ds.isEmpty then none
  let n ← ds.foldlM (fun acc d => (Numeral.hexDigit? d).map (acc * 16 + ·)) 0
  if h : n.isValidChar then some (Char.ofNatAux n h) else none

/-- Reads so many characters; what does not count behind each is dropped with it. -/
def Flags.take? (flags : Flags) : Nat → List Char → Option (List Char × List Char)
  | 0, cs => some ([], cs)
  | _ + 1, [] => none
  | n + 1, c :: rest => (flags.take? n (flags.skip rest)).map fun (taken, behind) =>
      (c :: taken, behind)

/-- Reads what stands in braces behind the opening one, up to the closing one. -/
def Flags.inBraces? (flags : Flags) (cs : List Char) : Option (List Char × List Char) :=
  match flags.collect (· ≠ '\x7d') (flags.skip cs) with
  | (body, _ :: behind) => some (body, behind)
  | (_, []) => none

/-- Reads the number of a character: `count` digits, or any number of them in braces. Two digits
name a byte, which has to be a character by itself where classes are narrow. -/
def hexEscape? (count : Nat) : EscapeReader := fun flags cs =>
  match flags.skip cs with
  | '\x7b' :: rest => do
    let (ds, behind) ← flags.inBraces? rest
    some (.char (← charOfHex? ds), behind)
  | rest => do
    let (ds, behind) ← flags.take? count rest
    let c ← charOfHex? ds
    if ¬ flags.wide ∧ count = 2 ∧ 128 ≤ c.toNat then none else some (.char c, behind)

/-- The parts of a text around the first place where `mark` stands. -/
def cutAt? (mark : List Char) : List Char → Option (List Char × List Char)
  | [] => none
  | c :: rest =>
    if mark = (c :: rest).take mark.length then some ([], (c :: rest).drop mark.length)
    else (cutAt? mark rest).map fun (before, behind) => (c :: before, behind)

/-- The property that a name stands for, or a property and one of its values. The sign between
these two may be any of three; none of them makes a difference. -/
def propertyNamed? (name : List Char) : Option Property :=
  match (cutAt? ['!', '='] name).or ((cutAt? [':'] name).or (cutAt? ['='] name)) with
  | some (kind, value) => propertyValue? kind value
  | none => property? name

/-- Reads the name of a property: one letter, or a name in braces. -/
def propertyEscape? (negated : Bool) : EscapeReader := fun flags cs => do
  let (p?, behind) ← match flags.skip cs with
    | '\x7b' :: rest => (flags.inBraces? rest).map fun (name, behind) =>
        (propertyNamed? name, behind)
    | c :: rest => some (property? [c], rest)
    | [] => none
  let p ← p?
  some (.set (if negated then p.set.complement else p.set), behind)

/-- The conditions with a name in braces. -/
def boundaryNamed? (name : List Char) : Option Condition :=
  match String.ofList name with
  | "start" => some .wordStart
  | "end" => some .wordStop
  | "start-half" => some .noWordBefore
  | "end-half" => some .noWordBehind
  | _ => none

/-- Reads what follows a backslash and the letter `b`: a name in braces, or nothing. Braces that
hold something else make a repetition. -/
def boundaryEscape? : EscapeReader := fun flags cs =>
  match cs with
  | '\x7b' :: rest =>
    match flags.collect (fun c => c.isAlpha || c = '-') (flags.skip rest) with
    | ([], _) => some (.condition .boundary, cs)
    | (name, '\x7d' :: behind) => (boundaryNamed? name).map (.condition ·, behind)
    | _ => none
  | _ => some (.condition .boundary, cs)

/-- A class that a letter stands for, or all other characters. Where classes are narrow, it has no
members beyond ASCII, and therefore no contrary. -/
def letterClass? (p : Property) (negated : Bool) : EscapeReader := fun flags cs =>
  let set := if flags.wide then p.set else .ofRanges p.ascii
  if negated then if flags.wide then some (.set set.complement, cs) else none
  else some (.set set, cs)

/-- Reads what follows a backslash. -/
def Atom.escape? : EscapeReader := fun flags cs =>
  match cs with
  | [] => none
  | c :: rest =>
    match c with
    | 'd' => letterClass? .decimal false flags rest
    | 's' => letterClass? .blank false flags rest
    | 'w' => letterClass? .wordly false flags rest
    | 'D' => letterClass? .decimal true flags rest
    | 'S' => letterClass? .blank true flags rest
    | 'W' => letterClass? .wordly true flags rest
    | 'x' => hexEscape? 2 flags rest
    | 'u' => hexEscape? 4 flags rest
    | 'U' => hexEscape? 8 flags rest
    | 'p' => if flags.wide then propertyEscape? false flags rest else none
    | 'P' => if flags.wide then propertyEscape? true flags rest else none
    | 'A' => some (.condition .start, rest)
    | 'z' => some (.condition .stop, rest)
    | 'b' => boundaryEscape? flags rest
    | 'B' => some (.condition .noBoundary, rest)
    | '<' => some (.condition .wordStart, rest)
    | '>' => some (.condition .wordStop, rest)
    | 'a' => some (.char '\x07', rest)
    | 'f' => some (.char '\x0c', rest)
    | 't' => some (.char '\t', rest)
    | 'n' => some (.char '\n', rest)
    | 'r' => some (.char '\r', rest)
    | 'v' => some (.char '\x0b', rest)
    | _ => if c.toNat < 128 ∧ ¬ c.isAlphanum then some (.char c, rest) else none

end RouteFeed
