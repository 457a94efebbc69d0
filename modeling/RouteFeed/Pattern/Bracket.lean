import RouteFeed.Pattern.Escape

/-!
# Classes of characters in brackets

A class in brackets lists characters, ranges, escapes, named classes and further classes in
brackets. Two lists may be combined by `&&`, which keeps what is in both, `--`, which keeps what is
only in the first, and `~~`, which keeps what is in exactly one. These operators group from the
left, and a list without any operator stands for the union of its members.

How deeply the parts of a class are nested is counted, since nesting is limited: a class in
brackets, a list of several members and an operator count one each.

## Main definitions

* `Operator` — the three operators
* `Nested` — a class with the depth of its parts
* `Bracket` — a class that is open, with what has been read of it
* `readBracket?` — reads a class behind its opening bracket
-/

namespace RouteFeed

/-- How two lists of a class are combined. -/
inductive Operator where
  /-- What is in both. -/
  | both
  /-- What is in the first alone. -/
  | first
  /-- What is in exactly one. -/
  | oneOf
deriving DecidableEq, Repr

/-- The class that an operator makes of two classes. -/
def Operator.apply : Operator → CharSet → CharSet → CharSet
  | both, s, t => s.meet t
  | first, s, t => s.without t
  | oneOf, s, t => s.difference t

/-- A part of a class. -/
structure Nested where
  /-- Its characters. -/
  set : CharSet
  /-- How deeply its parts are nested. -/
  depth : Nat
deriving Repr

/-- A class that is open. -/
structure Bracket where
  /-- Whether it stands for all other characters. -/
  negated : Bool
  /-- The lists in front of the present one, combined, and the operator behind them. -/
  left? : Option (Nested × Operator)
  /-- The members of the present list, last first. -/
  members : List Nested
deriving Repr

namespace Bracket

/-- The present list. -/
def present (b : Bracket) : Nested :=
  match b.members with
  | [m] => m
  | ms =>
    { set := ms.foldr (fun m s => .union s m.set) .empty
      depth := if ms.isEmpty then 0 else ms.foldl (fun d m => max d m.depth) 0 + 1 }

/-- The lists so far, combined. -/
def combined (b : Bracket) : Nested :=
  match b.left? with
  | none => b.present
  | some (left, operator) =>
    { set := operator.apply left.set b.present.set
      depth := max left.depth b.present.depth + 1 }

/-- Adds a member to the present list. -/
def insert (b : Bracket) (m : Nested) : Bracket := { b with members := m :: b.members }

/-- Ends the present list with an operator. -/
def combine (b : Bracket) (operator : Operator) : Bracket :=
  { b with left? := some (b.combined, operator), members := [] }

/-- The class, once it is closed. Where classes are narrow, there is none of all other
characters. -/
def closed? (flags : Flags) (b : Bracket) : Option Nested :=
  let all := b.combined
  if ¬ b.negated then some ⟨all.set, all.depth + 1⟩
  else if flags.wide then some ⟨all.set.complement, all.depth + 1⟩
  else none

/-- Opens a class: dashes, or a closing bracket, that come first are members. -/
def opened (flags : Flags) (cs : List Char) : Bracket × List Char :=
  let (negated, cs) := match flags.skip cs with
    | '^' :: rest => (true, flags.skip rest)
    | rest => (false, rest)
  let member (c : Char) : Nested := ⟨.single c, 0⟩
  match flags.collect (· = '-') cs with
  | ([], ']' :: rest) => (⟨negated, none, [member ']']⟩, flags.skip rest)
  | (dashes, rest) => (⟨negated, none, dashes.map member⟩, rest)

end Bracket

/-- Reads a named class behind its opening bracket. Where classes are narrow, it has no contrary. -/
def namedClass? (flags : Flags) : List Char → Option (Option CharSet × List Char)
  | ':' :: rest =>
    let (negated, rest) := match rest with
      | '^' :: behind => (true, behind)
      | _ => (false, rest)
    let name := rest.takeWhile (· ≠ ':')
    match rest.drop name.length with
    | ':' :: ']' :: behind =>
      (bracketClass? (String.ofList name)).map fun s =>
        (if ¬ negated then some s else if flags.wide then some s.complement else none, behind)
    | _ => none
  | _ => none

/-- Reads one character, plain or escaped, or an escape for a class. Where classes are narrow, a
character is one of ASCII. -/
def member? (flags : Flags) (cs : List Char) : Option (Atom × List Char) := do
  let (atom, behind) ← match cs with
    | '\\' :: rest => Atom.escape? flags rest
    | c :: rest => some (.char c, rest)
    | [] => none
  match atom with
  | .char c => if flags.wide ∨ c.toNat < 128 then some (atom, behind) else none
  | _ => some (atom, behind)

/-- Reads a member of a list: a range, a character or an escape for a class. -/
def range? (flags : Flags) (cs : List Char) : Option (CharSet × List Char) := do
  let (low, rest) ← member? flags cs
  let rest := flags.skip rest
  let alone : Option (CharSet × List Char) := match low with
    | .char c => some (.single c, rest)
    | .set s => some (s, rest)
    | .condition _ => none
  match rest with
  | '-' :: behind =>
    if flags.peek? behind = some ']' ∨ flags.peek? behind = some '-' then alone
    else
      let (high, rest) ← member? flags (flags.skip behind)
      match low, high with
      | .char a, .char b => if a ≤ b then some (.range a b, rest) else none
      | _, _ => none
  | _ => alone

/-- Reads on inside the class `b`, which is inside the classes `outer`, up to the bracket that
closes the outermost one. -/
def readBracketFrom? (flags : Flags) : Nat → Bracket → List Bracket → List Char →
    Option (Nested × List Char)
  | 0, _, _, _ => none
  | fuel + 1, b, outer, cs =>
    match flags.skip cs with
    | [] => none
    | ']' :: rest =>
      match b.closed? flags, outer with
      | none, _ => none
      | some inner, [] => some (inner, rest)
      | some inner, parent :: outer => readBracketFrom? flags fuel (parent.insert inner) outer rest
    | '[' :: rest =>
      match namedClass? flags rest with
      | some (none, _) => none
      | some (some s, behind) => readBracketFrom? flags fuel (b.insert ⟨s, 0⟩) outer behind
      | none =>
        let (inner, behind) := Bracket.opened flags rest
        readBracketFrom? flags fuel inner (b :: outer) behind
    | '&' :: '&' :: rest => readBracketFrom? flags fuel (b.combine .both) outer rest
    | '-' :: '-' :: rest => readBracketFrom? flags fuel (b.combine .first) outer rest
    | '~' :: '~' :: rest => readBracketFrom? flags fuel (b.combine .oneOf) outer rest
    | rest => (range? flags rest).bind fun (s, behind) =>
        readBracketFrom? flags fuel (b.insert ⟨s, 0⟩) outer behind

/-- Reads a class behind its opening bracket. -/
def readBracket? (flags : Flags) (cs : List Char) : Option (Nested × List Char) :=
  let (b, rest) := Bracket.opened flags cs
  readBracketFrom? flags (cs.length + 1) b [] rest

end RouteFeed
