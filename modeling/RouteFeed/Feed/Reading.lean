import RouteFeed.Feed.Basic

/-!
# Reading a feed through

A feed may be read through in three ways: as results, that is records and failures; as records
alone, where a failure that costs one dump is passed over and any other ends the reading; and as the
elements of these records. Each way of reading comes to an end once and then stays there, without
moving the feed any more.

## Main definitions

* `Outcome` — what is read next, if anything
* `Reading` — a feed that is being read through
* `Reading.nextResult`, `Reading.nextRecord` — the next result, and the next record
* `ElementReading`, `ElementReading.next` — the next element
-/

namespace RouteFeed

/-- What is read next. -/
inductive Outcome (α : Type) where
  /-- Something. -/
  | item (a : α)
  /-- Nothing, now and for ever. -/
  | ended
  /-- It has not been settled in the steps that were allowed. -/
  | unsettled

/-- A feed that is being read through. -/
structure Reading (κ : Type) where
  /-- The feed. -/
  feed : Feed κ
  /-- Whether the end has been reached. -/
  ended : Bool := false

namespace Reading

variable {κ : Type} [Catalogue κ]

/-- The next record or failure; a failure that costs more than one dump is the last. -/
def nextResult (steps : Nat) (r : Reading κ) : Outcome (Except FeedError Record) × Reading κ :=
  if r.ended then (.ended, r)
  else
    match r.feed.next steps with
    | (none, f) => (.unsettled, ⟨f, false⟩)
    | (some (.ok none), f) => (.ended, ⟨f, true⟩)
    | (some (.ok (some record)), f) => (.item (.ok record), ⟨f, false⟩)
    | (some (.error e), f) => (.item (.error e), ⟨f, !e.isSoft⟩)

/-- The next record. Failures that cost one dump are passed over, any other ends the reading. At
most `tries` failures are passed over. -/
def nextRecord (steps : Nat) : Nat → Reading κ → Outcome Record × Reading κ
  | 0, r => if r.ended then (.ended, r) else (.unsettled, r)
  | tries + 1, r =>
    if r.ended then (.ended, r)
    else
      match r.feed.next steps with
      | (none, f) => (.unsettled, ⟨f, false⟩)
      | (some (.ok none), f) => (.ended, ⟨f, true⟩)
      | (some (.ok (some record)), f) => (.item record, ⟨f, false⟩)
      | (some (.error e), f) =>
        if e.isSoft then nextRecord steps tries ⟨f, false⟩ else (.ended, ⟨f, true⟩)

end Reading

/-- A feed whose elements are being read through. -/
structure ElementReading (κ : Type) where
  /-- The feed, as far as it has been read. -/
  reading : Reading κ
  /-- The elements of the last record that have not been read, the next of them last. -/
  cache : Array Element := #[]

namespace ElementReading

variable {κ : Type} [Catalogue κ]

/-- The next element. At most `tries` records without elements are passed over. -/
def next (steps : Nat) : Nat → ElementReading κ → Outcome Element × ElementReading κ
  | 0, r => (.unsettled, r)
  | tries + 1, r =>
    match r.cache.back? with
    | some e => (.item e, { r with cache := r.cache.pop })
    | none =>
      match r.reading.nextRecord steps (tries + 1) with
      | (.unsettled, reading) => (.unsettled, { r with reading := reading })
      | (.ended, reading) => (.ended, { r with reading := reading })
      | (.item record, reading) => next steps tries ⟨reading, record.elements.toArray.reverse⟩

end ElementReading

end RouteFeed
