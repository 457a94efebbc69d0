import RouteFeed.Numeral

/-!
# Paths of autonomous systems

The path of an announcement is a list of segments. A segment lists autonomous systems, in order or
as a set, of the whole network or of a confederation inside it.

## Main definitions

* `SegmentKind`, `Segment`, `AsPath`
* `AsPath.print` — the text that patterns are matched with
* `AsPath.origins` — the systems that a path starts from
-/

namespace RouteFeed

/-- The four kinds of segments. -/
inductive SegmentKind where
  /-- Systems in the order in which they were passed. -/
  | sequence
  /-- Systems in no order. -/
  | set
  /-- A sequence inside a confederation. -/
  | confederationSequence
  /-- A set inside a confederation. -/
  | confederationSet
deriving DecidableEq, Repr

/-- A part of a path. -/
structure Segment where
  /-- What its numbers mean. -/
  kind : SegmentKind
  /-- The numbers of autonomous systems. -/
  members : List UInt32
deriving DecidableEq, Repr

/-- A path, as its segments. -/
abbrev AsPath := List Segment

/-- The text of the number of an autonomous system. -/
def printAsn (asn : UInt32) : String := Numeral.printNat asn.toNat

/-- Whether a segment lists its members in no order. -/
def SegmentKind.isSet : SegmentKind → Bool
  | set | confederationSet => true
  | sequence | confederationSequence => false

/-- Whether a segment belongs to a confederation. -/
def SegmentKind.isConfederation : SegmentKind → Bool
  | confederationSequence | confederationSet => true
  | sequence | set => false

/-- The text of a segment: a sequence has blanks between its members, a set is in braces. -/
def Segment.print (s : Segment) : String :=
  if s.kind.isSet then "\x7b" ++ ",".intercalate (s.members.map printAsn) ++ "\x7d"
  else " ".intercalate (s.members.map printAsn)

namespace AsPath

/-- The text of a path: its segments with one blank between each two. -/
def print (path : AsPath) : String := " ".intercalate (List.map Segment.print path)

/-- The systems that a path starts from: the last member of its last segment, or all members if that
is a set. A path that ends inside a confederation starts nowhere. -/
def origins (path : AsPath) : List UInt32 :=
  match path.getLast? with
  | none => []
  | some s =>
    match s.kind with
    | .sequence => s.members.getLast?.toList
    | .set => s.members
    | _ => []

end AsPath

end RouteFeed
