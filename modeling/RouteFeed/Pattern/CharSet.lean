import RouteFeed.Pattern.Size

/-!
# Classes of characters

A class of characters stands for one character of a text. The texts are paths, which are written in
ASCII, so the ASCII members of a class decide where it matches. The members beyond ASCII count as
well, because a class that has many of them takes much room in an automaton. What matters of them is
kept in `Beyond`.

## Main definitions

* `Beyond` — the characters of a class that are not in ASCII
* `CharSet`, `CharSet.contains` — classes of characters
* `CharSet.ofRanges`, `CharSet.without`, `CharSet.difference` — classes made of others
* `CharSet.size` — the size of a class in the automatons of a pattern
-/

namespace RouteFeed

/-- The characters of a class that are not in ASCII. -/
inductive Beyond where
  /-- None. -/
  | none
  /-- All. -/
  | every
  /-- Some, with the size that they take and the size that all others would take. -/
  | part (own others : Size)
deriving DecidableEq, Repr

namespace Beyond

/-- All other characters that are not in ASCII. -/
def complement : Beyond → Beyond
  | none => every
  | every => none
  | part own others => part others own

/-- The characters of either class. The size of two different classes is the one of classes without
a common member. -/
def union : Beyond → Beyond → Beyond
  | none, b => b
  | b, none => b
  | every, _ => every
  | _, every => every
  | part s s', part t t' =>
    if s = t ∧ s' = t' then part s s' else part (s + t) (s' + t')

/-- The characters of both classes. -/
def meet (b c : Beyond) : Beyond := (b.complement.union c.complement).complement

/-- What the characters take beside the two ends of a class. All characters that are not in ASCII
take three lengths of sequences of bytes. -/
def size : Beyond → Size
  | none => Size.nothing
  | every => ⟨344, 864⟩
  | part own _ => own

/-- The characters between two that are not in ASCII, both included. -/
def ofRange (low high : Char) : Beyond :=
  if high.toNat < 128 then none
  else if low.toNat ≤ 128 ∧ high.toNat = 0x10FFFF then every
  else
    let bytes := high.utf8Size
    part ⟨40 * bytes - 32, 32 * bytes + 4⟩ ⟨456, 1200⟩

end Beyond

/-- A class of characters. -/
inductive CharSet where
  /-- No character. -/
  | empty
  /-- All characters between two, both included. -/
  | range (low high : Char)
  /-- Characters that are not in ASCII. -/
  | beyond (members : Beyond)
  /-- The characters of either class. -/
  | union (s t : CharSet)
  /-- The characters of both classes. -/
  | meet (s t : CharSet)
  /-- The characters outside a class. -/
  | complement (s : CharSet)
deriving Repr

namespace CharSet

/-- Whether a character of ASCII is in a class. -/
def contains : CharSet → Char → Bool
  | empty, _ => false
  | range low high, c => low ≤ c && c ≤ high
  | beyond _, _ => false
  | union s t, c => s.contains c || t.contains c
  | meet s t, c => s.contains c && t.contains c
  | complement s, c => !s.contains c

/-- The members of a class that are not in ASCII. -/
def foreign : CharSet → Beyond
  | empty => .none
  | range low high => .ofRange low high
  | beyond members => members
  | union s t => s.foreign.union t.foreign
  | meet s t => s.foreign.meet t.foreign
  | complement s => s.foreign.complement

/-- One character. -/
def single (c : Char) : CharSet := range c c

/-- The characters of a list of ranges. -/
def ofRanges (ranges : List (Char × Char)) : CharSet :=
  ranges.foldr (fun r s => union (range r.1 r.2) s) empty

/-- All characters. -/
def all : CharSet := complement empty

/-- The characters of one class that are not in another. -/
def without (s t : CharSet) : CharSet := meet s (complement t)

/-- The characters of exactly one of two classes. -/
def difference (s t : CharSet) : CharSet := union (s.without t) (t.without s)

/-- The characters that words are made of. -/
def wordly : CharSet := ofRanges [('0', '9'), ('A', 'Z'), ('_', '_'), ('a', 'z')]

/-- The members of a class in ASCII. -/
def ascii (s : CharSet) : List Char := ((List.range 128).map Char.ofNat).filter s.contains

/-- The number of ranges that the members of a class in ASCII form: of each, only the first member
has no member in front of it. -/
def asciiRanges (s : CharSet) : Nat :=
  (s.ascii.filter fun c => c.toNat = 0 || !s.contains (Char.ofNat (c.toNat - 1))).length

/-- The only member of a class, if there is just one. -/
def sole? (s : CharSet) : Option Char :=
  match s with
  | range low high => if low = high then some low else none
  | _ =>
    match s.foreign, s.ascii with
    | .none, [c] => some c
    | _, _ => none

/-- The size of a class. A class of one character is a state for each of its bytes; any other class
has a state at either end, and its ranges between them. -/
def size (s : CharSet) : Size :=
  match s.sole? with
  | some c => Size.state.times c.utf8Size
  | none =>
    let ranges := match s.foreign with
      | .none => Size.edge.times s.asciiRanges
      | b => Size.asciiRange.times s.asciiRanges + b.size
    Size.state.times 2 + ranges

end CharSet

end RouteFeed
