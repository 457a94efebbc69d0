import RouteFeed.Criteria.Basic

/-!
# Lanes

An open dump is a *lane*: its description, the next record that the criteria let through, and what
has not been decoded yet. Which lane delivers next is decided by the order of lanes: by the time of
the next record in the total order of timestamps, then by the name of the collector, then by the
number that the lane got when it was opened.

## Main definitions

* `Contents` — what decoding a dump brings: records, and perhaps a failure
* `Contents.pull` — decodes up to the next record that the criteria let through
* `Lane` — an open dump
* `Lane.order` — the order in which lanes deliver
* The instances `BEq Lane` and `Ord Lane` — lanes as members of a queue, which hands out the
  greatest member first
-/

namespace RouteFeed

/-- What decoding a dump brings: its records, and then its end or a failure. -/
structure Contents where
  /-- The records, in the order of the dump. -/
  records : List Decoded
  /-- Why decoding stops behind them, if it is not the end of the dump. -/
  failure? : Option FeedError := none

/-- What decoding up to the next record that counts leads to. -/
inductive Pulled where
  /-- A record, and what is left. -/
  | found (record : Decoded) (rest : Contents)
  /-- The end of the dump. -/
  | finished
  /-- A failure. -/
  | failed (error : FeedError)

namespace Contents

/-- Decodes up to the next record that the criteria let through; `failure?` is what stands behind
the records. -/
def pullFrom (c : Criteria) (failure? : Option FeedError) : List Decoded → Pulled
  | [] =>
    match failure? with
    | none => .finished
    | some e => .failed e
  | d :: rest =>
    match c.screen d with
    | some kept => .found kept ⟨rest, failure?⟩
    | none => pullFrom c failure? rest

/-- Decodes up to the next record that the criteria let through. -/
def pull (c : Criteria) (contents : Contents) : Pulled :=
  pullFrom c contents.failure? contents.records

end Contents

/-- An open dump. -/
structure Lane where
  /-- The description of the dump. -/
  chunk : Chunk
  /-- The next record that the criteria let through. -/
  head : Decoded
  /-- What has not been decoded yet. -/
  rest : Contents
  /-- The number of lanes that were opened before. -/
  number : Nat
  /-- The number of records that have been delivered. -/
  delivered : Nat

namespace Lane

/-- The order in which lanes deliver. -/
def order (a b : Lane) : Ordering :=
  (compare a.head.time.orderKey b.head.time.orderKey).then <|
    (compare a.chunk.collector b.chunk.collector).then (compare a.number b.number)

/-- `a` delivers before `b`. -/
def isBefore (a b : Lane) : Bool := (order a b).isLT

/-- Lanes are equal to a queue if the order does not tell them apart. -/
instance : BEq Lane := ⟨fun a b => order a b == .eq⟩

/-- The rank in a queue, which hands out the greatest lane first. -/
instance : Ord Lane := ⟨fun a b => order b a⟩

end Lane

/-- The lane that delivers next, and the others. -/
def leastLane? : List Lane → Option (Lane × List Lane)
  | [] => none
  | a :: rest =>
    match leastLane? rest with
    | none => some (a, [])
    | some (b, others) => if b.isBefore a then some (b, a :: others) else some (a, rest)

end RouteFeed
