import RouteFeed.Proofs.Merge.Course
import RouteFeed.Proofs.Merge.Testing

/-!
# Accounts of chunks

The *account* of a chunk that has been opened says at which times the chunk was opened, its records
were returned, and its failure was returned. This is enough to know everything about the chunk: each
of these calls, the last apart, pulled from the dump, so by their criteria it is known which records
have been tested and by whom, which have passed, which one is pending, and what is unread.

## Main definitions

* `Merge.Account` — the times at which a chunk was opened and something of it was returned
* `Merge.Account.tests`, `passed`, `unread`, `pending?` — what follows for its records
* `Merge.Account.lane?`, `Merge.Account.waiting?` — what follows for the merge
* `Merge.Account.laneAt`, `Merge.Account.waitingAt` — the same at an earlier time

## Main results

* `Merge.Account.lane?_returning` — returning a record leads from a lane to its successor
-/

namespace RouteFeed.Merge

/-- What has happened to a chunk that was opened. -/
structure Account where
  /-- The chunk. -/
  chunk : Chunk
  /-- Its contents. -/
  contents : Contents
  /-- The number of its lane, if it has got one. -/
  number : ℕ
  /-- When it was opened. -/
  openedAt : ℕ
  /-- When its records were returned. -/
  returnedAt : List ℕ
  /-- When its failure was returned. -/
  failedAt? : Option ℕ

namespace Account

variable (criteria : ℕ → Criteria) (a : Account)

/-- The tests that have been made: the call that opened the chunk pulled from it, and so did every
call that returned one of its records. -/
def tests : List (ℕ × Decoded) := testsFrom criteria (a.openedAt :: a.returnedAt) a.contents.records

/-- The records that have passed. -/
def passed : List Decoded := passedBy criteria (a.tests criteria)

/-- What has not been tested. -/
def unread : Contents :=
  ⟨a.contents.records.drop (a.tests criteria).length, a.contents.failure?⟩

/-- The record that has passed and has not been returned. -/
def pending? : Option Decoded := (a.passed criteria)[a.returnedAt.length]?

/-- The lane of the chunk, as long as a record is pending. -/
def lane? : Option Lane :=
  (a.pending? criteria).map fun head =>
    ⟨a.chunk, head, a.unread criteria, a.number, a.returnedAt.length⟩

/-- The failure of the chunk, from when no record is pending until it is returned. -/
def waiting? : Option FeedError :=
  if a.failedAt?.isNone ∧ (a.lane? criteria).isNone then a.contents.failure? else none

/-- The account after a record has been returned. -/
def returning (t : ℕ) : Account := { a with returnedAt := a.returnedAt ++ [t] }

/-- The account after the failure has been returned. -/
def failing (t : ℕ) : Account := { a with failedAt? := some t }

variable {criteria a} {l : Lane}

/-- The records that have been tested and those that have not are the records of the chunk. -/
theorem tests_append_unread :
    (a.tests criteria).map Prod.snd ++ (a.unread criteria).records = a.contents.records := by
  rw [tests, testsFrom_eq_take]
  exact List.take_append_drop _ _

theorem length_passed_le : (a.passed criteria).length ≤ a.returnedAt.length + 1 :=
  length_passedBy_le _ _

/-- If no record is pending none is unread. -/
theorem unread_eq_nil (nothing : a.pending? criteria = none) :
    (a.unread criteria).records = [] := by
  have few := List.getElem?_eq_none_iff.mp nothing
  exact drop_eq_nil_of_length_passedBy_lt (Nat.lt_succ_of_le few)

theorem lane?_eq_none_iff : a.lane? criteria = none ↔ a.pending? criteria = none :=
  Option.map_eq_none_iff

/-! ## What calls do to an account -/

/-- A chunk that has just been opened has the lane that opening it leads to. -/
theorem lane?_opened (chunk : Chunk) (x : Contents) (number t : ℕ) :
    lane? criteria ⟨chunk, x, number, t, [], none⟩ = x.lane? (criteria t) chunk number 0 := by
  rw [x.lane?_eq]
  rfl

theorem waiting?_opened (chunk : Chunk) (x : Contents) (number t : ℕ) :
    waiting? criteria ⟨chunk, x, number, t, [], none⟩ = x.error? (criteria t) := by
  rw [x.error?_eq (criteria t) chunk number 0, ← lane?_opened, waiting?]
  simp

section Returning

variable (lane : a.lane? criteria = some l) (t : ℕ)
include lane

theorem pending?_of_lane? : a.pending? criteria = some l.head ∧
    l = ⟨a.chunk, l.head, a.unread criteria, a.number, a.returnedAt.length⟩ := by
  obtain ⟨head, pending, rfl⟩ := Option.map_eq_some_iff.mp lane
  exact ⟨pending, rfl⟩

/-- With a record pending, every call so far that pulled has found one. -/
theorem length_passed : (a.passed criteria).length = a.returnedAt.length + 1 := by
  obtain ⟨inside, -⟩ := List.getElem?_eq_some_iff.mp (pending?_of_lane? lane).1
  exact Nat.le_antisymm length_passed_le inside

theorem tests_returning : (a.returning t).tests criteria =
    a.tests criteria ++ testsFrom criteria [t] (a.unread criteria).records :=
  testsFrom_concat t (length_passed lane)

theorem passed_returning : (a.returning t).passed criteria =
    a.passed criteria ++
      passedBy criteria (testsFrom criteria [t] (a.unread criteria).records) := by
  rw [passed, tests_returning lane, passedBy_append]
  rfl

theorem unread_returning : (a.returning t).unread criteria =
    ⟨(a.unread criteria).records.drop
      (testsFrom criteria [t] (a.unread criteria).records).length, a.contents.failure?⟩ := by
  rw [unread, tests_returning lane, List.length_append, ← List.drop_drop]
  rfl

/-- When a record is returned, the successor of the lane takes its place. -/
theorem lane?_returning : (a.returning t).lane? criteria = l.successor? (criteria t) := by
  have behind := (length_passed lane).symm
  rw [Lane.successor?, Contents.lane?_eq, (pending?_of_lane? lane).2, lane?, pending?,
    passed_returning lane, unread_returning lane]
  dsimp only [returning]
  rw [List.length_append, List.length_singleton, behind, List.getElem?_append_right le_rfl,
    Nat.sub_self]
  rfl

/-- When a record is returned, the failure that the pull finds starts to wait. -/
theorem waiting?_returning (open_end : a.failedAt? = none) :
    (a.returning t).waiting? criteria = l.rest.error? (criteria t) := by
  rw [l.rest.error?_eq (criteria t) l.chunk l.number (l.delivered + 1), ← Lane.successor?,
    ← lane?_returning lane, (pending?_of_lane? lane).2, waiting?]
  simp [returning, open_end, unread]

end Returning

/-! ## Earlier times -/

/-- The account as it was at an earlier time. -/
def upTo (t : ℕ) (a : Account) : Account :=
  { a with
    returnedAt := a.returnedAt.filter (· < t)
    failedAt? := a.failedAt?.filter (· < t) }

/-- The chunk was opened before a time, and the merge has not been cleared in between. -/
def isOpen (h : Course) (t : ℕ) (a : Account) : Prop :=
  a.openedAt < t ∧ ∀ s < t, a.openedAt < s → (h.calls s).isClear = false

instance (h : Course) (t : ℕ) (a : Account) : Decidable (a.isOpen h t) := by
  unfold isOpen
  infer_instance

/-- The lane of the chunk at a time. -/
def laneAt (h : Course) (t : ℕ) (a : Account) : Option Lane :=
  if a.isOpen h t then (a.upTo t).lane? h.criteria else none

/-- The failure of the chunk that waits at a time. -/
def waitingAt (h : Course) (t : ℕ) (a : Account) : Option FeedError :=
  if a.isOpen h t then (a.upTo t).waiting? h.criteria else none

variable {h : Course} {s t : ℕ}

theorem upTo_returning (early : s ≤ t) : (a.returning t).upTo s = a.upTo s := by
  simp [upTo, returning, List.filter_append, early]

theorem upTo_failing (early : s ≤ t) (open_end : a.failedAt? = none) :
    (a.failing t).upTo s = a.upTo s := by
  simp [upTo, failing, open_end, early]

/-- What is returned later changes nothing before. -/
theorem laneAt_returning (early : s ≤ t) : (a.returning t).laneAt h s = a.laneAt h s := by
  rw [laneAt, upTo_returning early]
  rfl

theorem waitingAt_returning (early : s ≤ t) :
    (a.returning t).waitingAt h s = a.waitingAt h s := by
  rw [waitingAt, upTo_returning early]
  rfl

theorem laneAt_failing (early : s ≤ t) (open_end : a.failedAt? = none) :
    (a.failing t).laneAt h s = a.laneAt h s := by
  rw [laneAt, upTo_failing early open_end]
  rfl

theorem waitingAt_failing (early : s ≤ t) (open_end : a.failedAt? = none) :
    (a.failing t).waitingAt h s = a.waitingAt h s := by
  rw [waitingAt, upTo_failing early open_end]
  rfl

end Account

end RouteFeed.Merge
