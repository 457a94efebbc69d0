import RouteFeed.Pattern.CharSet

/-!
# Patterns

A pattern is a regular expression that is searched in the text of a path. Its meaning is given on
*marks*: a list with one truth value for each place of the text, before, between and behind its
characters. `Tree.advance` maps the places where a match may start to the places where it may end;
every part of a pattern acts on marks in this way, so a search takes no backtracking.

## Main definitions

* `Condition` — conditions on the two characters next to a place
* `Tree`, `Tree.advance` — regular expressions and their meaning
* `Pattern`, `Pattern.matchesText` — a search in a text
-/

namespace RouteFeed

/-- A condition on the characters before and behind a place, if there are any. -/
inductive Condition where
  /-- Nothing stands before the place. -/
  | start
  /-- Nothing stands behind it. -/
  | stop
  /-- A word starts or ends there. -/
  | boundary
  /-- No word starts or ends there. -/
  | noBoundary
  /-- A word starts there. -/
  | wordStart
  /-- A word ends there. -/
  | wordStop
  /-- No word reaches the place from before. -/
  | noWordBefore
  /-- No word goes on behind it. -/
  | noWordBehind
deriving DecidableEq, Repr

/-- Whether a condition holds between two characters. -/
def Condition.holds (condition : Condition) (before? behind? : Option Char) : Bool :=
  let before := before?.any CharSet.wordly.contains
  let behind := behind?.any CharSet.wordly.contains
  match condition with
  | start => before?.isNone
  | stop => behind?.isNone
  | boundary => before != behind
  | noBoundary => before == behind
  | wordStart => !before && behind
  | wordStop => before && !behind
  | noWordBefore => !before
  | noWordBehind => !behind

/-- A regular expression. -/
inductive Tree where
  /-- The empty text. -/
  | blank
  /-- One character of a class. -/
  | one (set : CharSet)
  /-- The empty text where a condition holds. -/
  | here (condition : Condition)
  /-- One expression after another. -/
  | seq (a b : Tree)
  /-- Either of two expressions. -/
  | alt (a b : Tree)
  /-- An expression at least so many times, and at most so many if there is a limit. -/
  | repeated (body : Tree) (least : Nat) (most? : Option Nat)
  /-- An expression of which it is recorded where it matched. -/
  | captured (body : Tree)
deriving Repr

/-- One truth value for each place of a text. -/
abbrev Marks := List Bool

namespace Marks

/-- The places that are marked in either of two lists. -/
def union (s t : Marks) : Marks := List.zipWith (· || ·) s t

/-- The places that are marked in one list but not in another. -/
def without (s t : Marks) : Marks := List.zipWith (fun a b => a && !b) s t

/-- `f` applied `n` times. -/
def iterate (f : Marks → Marks) : Nat → Marks → Marks
  | 0, s => s
  | n + 1, s =>
    let t := f s
    -- what does not change once does not change any more
    if t = s then s else iterate f n t

/-- `f` applied at most `n` times. -/
def upTo (f : Marks → Marks) (n : Nat) (s : Marks) : Marks := iterate (fun t => t.union (f t)) n s

/-- All places that are reached from those of `reached` by applying `f` any number of times, where
`f` has been applied to those of `spent` already. Every round spends a place. -/
def closure (f : Marks → Marks) : Nat → (spent reached : Marks) → Marks
  | 0, _, reached => reached
  | fuel + 1, spent, reached =>
    let fresh := reached.without spent
    if fresh.any id then closure f fuel (spent.union fresh) (reached.union (f fresh)) else reached

/-- `f` applied at least `least` times. -/
def atLeast (f : Marks → Marks) (least : Nat) (s : Marks) : Marks :=
  match least with
  | 0 => closure f (s.length + 1) (s.map fun _ => false) s
  | n + 1 =>
    let t := iterate f n s
    closure f (s.length + 1) t (f t)

end Marks

/-- For each place of a text whether a condition holds there. -/
def Condition.table (condition : Condition) (text : List Char) : Marks :=
  List.zipWith condition.holds (none :: text.map some) (text.map some ++ [none])

/-- The places where a match may end that starts at a marked place. -/
def Tree.advance (text : List Char) : Tree → Marks → Marks
  | blank, s => s
  | one set, s => false :: List.zipWith (fun mark c => mark && set.contains c) s text
  | here condition, s => List.zipWith (· && ·) s (condition.table text)
  | seq a b, s => b.advance text (a.advance text s)
  | alt a b, s => (a.advance text s).union (b.advance text s)
  | repeated body least none, s => Marks.atLeast (body.advance text) least s
  | repeated body least (some most), s =>
    Marks.upTo (body.advance text) (most - least) (Marks.iterate (body.advance text) least s)
  | captured body, s => body.advance text s

/-- A regular expression together with the text that it was read from. -/
structure Pattern where
  /-- How the pattern was written. -/
  source : String
  /-- What it means. -/
  tree : Tree

/-- The pattern matches some part of a text. -/
def Pattern.matchesText (p : Pattern) (text : String) : Bool :=
  let cs := text.toList
  (p.tree.advance cs (List.replicate (cs.length + 1) true)).any id

end RouteFeed
