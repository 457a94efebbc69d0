/-!
# Sizes of automatons

A pattern is searched by two automatons over the bytes of a text in UTF-8: one reads the text
forwards and finds where a match ends, the other reads it backwards and finds where the match
starts. A pattern whose automatons grow too large is refused, so sizes are counted for both.

## Main definitions

* `Size` — a size for either direction
* `Size.state`, `Size.branch`, `Size.edge` — the sizes of the parts of an automaton
* `Size.fits` — whether a size is within a limit
-/

namespace RouteFeed

/-- How many bytes something takes in the automaton that reads forwards and in the one that reads
backwards. -/
structure Size where
  /-- Its size in the automaton that reads forwards. -/
  forward : Nat
  /-- Its size in the automaton that reads backwards. -/
  backward : Nat
deriving DecidableEq, Repr

namespace Size

/-- The same size in both directions. -/
def both (n : Nat) : Size := ⟨n, n⟩

/-- The sum of two sizes. -/
def add (s t : Size) : Size := ⟨s.forward + t.forward, s.backward + t.backward⟩

instance : Add Size := ⟨add⟩

/-- The size of `n` copies. -/
def times (n : Nat) (s : Size) : Size := ⟨n * s.forward, n * s.backward⟩

/-- The size of nothing. -/
def nothing : Size := both 0

/-- The size of a state. -/
def state : Size := both 32

/-- The size of one of the ways that lead on from a state without reading a byte. -/
def branch : Size := both 4

/-- The size of an edge that reads a byte of a range. -/
def edge : Size := both 8

/-- The size of a range of ASCII in a class that holds other characters too. Backwards, the range is
a state of its own, and a way leads there. -/
def asciiRange : Size := ⟨8, 36⟩

/-- Both directions stay within a limit. -/
def fits (limit : Nat) (s : Size) : Bool := s.forward ≤ limit && s.backward ≤ limit

end Size

end RouteFeed
