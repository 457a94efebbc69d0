import RouteFeed.Pattern.Basic

/-!
# The size of a pattern

A pattern is made into two automatons, in which all repetitions are written out. This module counts
how large they are. An expression is built into the automatons differently by itself, within a
sequence and as one of several alternatives, so its measure holds what the expression around it
needs.

## Main definitions

* `Measure`, `Tree.measure` — what an expression means for the size of the one around it
* `Tree.size` — the sizes of the two automatons
-/

namespace RouteFeed

/-- What an expression means for the size of the expression around it. -/
structure Measure where
  /-- It is left out of a sequence. -/
  blank : Bool
  /-- It matches nothing but the empty text. -/
  still : Bool
  /-- It never matches the empty text. -/
  moving : Bool
  /-- If it is a single character or a class: the class, and whether it is a character. -/
  set? : Option (CharSet × Bool)
  /-- Its size within a sequence. -/
  bulk : Size
  /-- The size of its alternatives. -/
  branches : Size

namespace Measure

/-- The size of an expression that stands by itself. -/
def alone (m : Measure) : Size := if m.blank then Size.state else m.bulk

/-- An expression that is one alternative. -/
def ofBulk (still moving : Bool) (bulk : Size) : Measure :=
  ⟨false, still, moving, none, bulk, bulk + Size.branch⟩

/-- The empty text. -/
def ofBlank : Measure := ⟨true, true, false, none, Size.nothing, Size.state + Size.branch⟩

/-- One character of a class. -/
def ofClass (s : CharSet) : Measure :=
  { ofBulk false true s.size with set? := some (s, s.sole?.isSome) }

/-- One expression after another. -/
def append (m n : Measure) : Measure :=
  if m.blank then n
  else if n.blank then m
  else ofBulk (m.still && n.still) (m.moving || n.moving) (m.bulk + n.bulk)

/-- Either of two expressions. Alternatives that are all characters, or all classes, make one
class. -/
def or (m n : Measure) : Measure :=
  let branches := m.branches + n.branches
  match m.set?, n.set? with
  | some (s, c), some (t, d) =>
    if c = d then { ofClass (.union s t) with set? := some (.union s t, c), branches := branches }
    else ⟨false, false, true, none, Size.state.times 2 + branches, branches⟩
  | _, _ =>
    ⟨false, m.still && n.still, m.moving && n.moving, none, Size.state.times 2 + branches, branches⟩

/-- An expression that may be left out. -/
def option (m : Measure) : Measure :=
  ofBulk m.still false (m.alone + Size.state.times 2 + Size.branch.times 2)

/-- An expression at least so many times. -/
def atLeast (m : Measure) (least : Nat) : Measure :=
  let loop := Size.state + Size.branch.times 2
  let more :=
    if 0 < least ∨ m.moving then loop
    else loop.times 2 + Size.state
  ofBulk m.still (0 < least && m.moving) (m.alone.times (max 1 least) + more)

/-- An expression exactly so many times. -/
def exactly (m : Measure) (count : Nat) : Measure :=
  match count with
  | 0 => ofBlank
  | 1 => m
  | _ => ofBulk m.still m.moving (m.alone.times count)

/-- An expression at least and at most so many times. -/
def between (m : Measure) (least most : Nat) : Measure :=
  if most ≤ least then m.exactly least
  else if least = 0 ∧ most = 1 then m.option
  else
    let required := if least = 0 then Size.state else m.alone.times least
    let optional := (m.alone + Size.state + Size.branch.times 2).times (most - least)
    ofBulk m.still (0 < least && m.moving) (required + Size.state + optional)

/-- A repeated expression. One that matches nothing but the empty text is repeated once at most. -/
def repeated (m : Measure) (least : Nat) (most? : Option Nat) : Measure :=
  match most? with
  | some most => if m.still then m.between (min least 1) (min most 1) else m.between least most
  | none => if m.still then m.between (min least 1) 1 else m.atLeast least

/-- An expression of which it is recorded where it matched, which takes two states forwards. -/
def captured (m : Measure) : Measure :=
  ofBulk m.still m.moving (m.alone + ⟨2 * Size.state.forward, 0⟩)

end Measure

/-- What an expression means for the size of the expression around it. -/
def Tree.measure : Tree → Measure
  | blank => .ofBlank
  | one set => .ofClass set
  | here _ => .ofBulk true false Size.state
  | seq a b => a.measure.append b.measure
  | alt a b => a.measure.or b.measure
  | repeated body least most? => body.measure.repeated least most?
  | captured body => body.measure.captured

/-- The sizes of the two automatons. In front, each skips what does not belong to a match, and at
the end there is a state for success; forwards, the whole match is recorded. -/
def Tree.size (t : Tree) : Size :=
  let skip := Size.state.times 3 + Size.edge + Size.branch.times 2
  skip + t.measure.captured.alone + Size.state

end RouteFeed
