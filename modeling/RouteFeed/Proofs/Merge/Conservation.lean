import Mathlib.Data.List.Forall2
import RouteFeed.Proofs.Merge.Account

/-!
# Nothing is lost or doubled

Whatever is asked of a merge and in which order, there are accounts of the chunks that have been
opened which explain everything: each answer belongs to one account, and what the merge holds is
what the accounts leave open. The accounts are found by following the calls. A call changes at most
one account, opens new ones, or closes all; what an account says of earlier times stays the same.

## Main definitions

* `Merge.Account.Kept` — what is true of one account
* `Merge.Matches` — a merge holds what the accounts leave open
* `Merge.Ledger` — what is true of all accounts together

## Main results

* `Merge.Ledger.next`, `Merge.Ledger.add`, `Merge.Ledger.clear` — what a call does to the accounts
* `Merge.Course.exists_ledger` — every course of calls has accounts
* `Merge.conservation` — what follows for the chunks
-/

namespace RouteFeed.Merge

namespace Account

/-- What is true of the account of a chunk at a time. -/
structure Kept (h : Course) (n : ℕ) (a : Account) : Prop where
  /-- The chunk was opened before. -/
  openedAt_lt : a.openedAt < n
  /-- Its records were returned before. -/
  returnedAt_lt : ∀ t ∈ a.returnedAt, t < n
  /-- No two records were returned at the same time. -/
  increasing : (a.openedAt :: a.returnedAt).Pairwise (· < ·)
  /-- The records that were returned are the first of those that have passed, in their order. -/
  returned : List.Forall₂
    (fun t d => ∃ position, h.answer t = some (.ok (some (d.ofChunk a.chunk position))))
    a.returnedAt ((a.passed h.criteria).take a.returnedAt.length)
  /-- Each of them was the head of the lane that had the least key among all that were open. -/
  least : ∀ t ∈ a.returnedAt, ∃ l, a.laneAt h t = some l ∧
    h.answer t = some (.ok (some (l.emitted (h.criteria t)))) ∧
    ∀ o ∈ (h.state t).lanes, l.key ≤ o.key
  /-- The failure is returned after all records of the chunk, when none is pending any more. -/
  failed : ∀ t, a.failedAt? = some t → t < n ∧ (∀ s ∈ a.openedAt :: a.returnedAt, s < t) ∧
    a.pending? h.criteria = none ∧
    ∃ e, a.contents.failure? = some e ∧ h.answer t = some (.error e)
  /-- After the merge has been cleared, nothing of the chunk is returned. -/
  cleared : ∀ s < n, a.openedAt < s → (h.calls s).isClear →
    ∀ t, t ∈ a.returnedAt ∨ a.failedAt? = some t → t < s

variable {h : Course} {n t : ℕ} {a : Account} {l : Lane} {e : FeedError}

namespace Kept

theorem failedAt_lt (kept : a.Kept h n) (failed : a.failedAt? = some t) : t < n :=
  (kept.failed t failed).1

theorem upTo_eq (kept : a.Kept h n) (late : n ≤ t) : a.upTo t = a := by
  have returned : a.returnedAt.filter (· < t) = a.returnedAt := by
    rw [List.filter_eq_self]
    exact fun s hs => decide_eq_true ((kept.returnedAt_lt s hs).trans_le late)
  have failed : a.failedAt?.filter (· < t) = a.failedAt? := by
    cases last : a.failedAt? with
    | none => rfl
    | some s => simp [(kept.failedAt_lt last).trans_le late]
  rw [upTo, returned, failed]

theorem laneAt_eq (kept : a.Kept h n) :
    a.laneAt h n = if a.isOpen h n then a.lane? h.criteria else none := by
  rw [laneAt, kept.upTo_eq le_rfl]

theorem waitingAt_eq (kept : a.Kept h n) :
    a.waitingAt h n = if a.isOpen h n then a.waiting? h.criteria else none := by
  rw [waitingAt, kept.upTo_eq le_rfl]

theorem isOpen_succ_iff (kept : a.Kept h n) :
    a.isOpen h (n + 1) ↔ a.isOpen h n ∧ (h.calls n).isClear = false := by
  constructor
  · rintro ⟨-, calm⟩
    exact ⟨⟨kept.openedAt_lt, fun s hs => calm s (hs.trans n.lt_succ_self)⟩,
      calm n n.lt_succ_self kept.openedAt_lt⟩
  · rintro ⟨⟨-, calm⟩, last⟩
    refine ⟨kept.openedAt_lt.trans n.lt_succ_self, fun s hs after => ?_⟩
    rcases Nat.lt_succ_iff_lt_or_eq.mp hs with before | rfl
    · exact calm s before after
    · exact last

/-- As long as nothing happens to an account, the account is kept. -/
theorem succ (kept : a.Kept h n) : a.Kept h (n + 1) where
  openedAt_lt := Nat.lt_succ_of_lt kept.openedAt_lt
  returnedAt_lt t ht := Nat.lt_succ_of_lt (kept.returnedAt_lt t ht)
  increasing := kept.increasing
  returned := kept.returned
  least := kept.least
  failed t ht := ⟨Nat.lt_succ_of_lt (kept.failedAt_lt ht), (kept.failed t ht).2⟩
  cleared := by
    intro s hs after clear t ht
    rcases Nat.lt_succ_iff_lt_or_eq.mp hs with before | rfl
    · exact kept.cleared s before after clear t ht
    · exact ht.elim (kept.returnedAt_lt t) kept.failedAt_lt

/-- As long as nothing happens to an account, its lane stays open until the merge is cleared. -/
theorem laneAt_succ (kept : a.Kept h n) :
    a.laneAt h (n + 1) = if (h.calls n).isClear then none else a.laneAt h n := by
  rw [kept.succ.laneAt_eq, kept.laneAt_eq]
  by_cases clear : (h.calls n).isClear <;> simp [kept.isOpen_succ_iff, clear]

theorem waitingAt_succ (kept : a.Kept h n) :
    a.waitingAt h (n + 1) = if (h.calls n).isClear then none else a.waitingAt h n := by
  rw [kept.succ.waitingAt_eq, kept.waitingAt_eq]
  by_cases clear : (h.calls n).isClear <;> simp [kept.isOpen_succ_iff, clear]

theorem of_laneAt (kept : a.Kept h n) (lane : a.laneAt h n = some l) :
    a.isOpen h n ∧ a.lane? h.criteria = some l := by
  rw [kept.laneAt_eq] at lane
  exact (Option.ite_none_right_eq_some.mp lane)

theorem of_waitingAt (kept : a.Kept h n) (waits : a.waitingAt h n = some e) :
    a.isOpen h n ∧ (a.failedAt? = none ∧ a.pending? h.criteria = none) ∧
      a.contents.failure? = some e := by
  rw [kept.waitingAt_eq, Option.ite_none_right_eq_some, waiting?,
    Option.ite_none_right_eq_some] at waits
  simpa [lane?_eq_none_iff] using waits

/-- With a record pending the failure has not been returned. -/
theorem failedAt?_eq_none (kept : a.Kept h n) (lane : a.lane? h.criteria = some l) :
    a.failedAt? = none := by
  rw [Option.eq_none_iff_forall_not_mem]
  intro t ht
  obtain ⟨-, -, nothing, -⟩ := kept.failed t ht
  rw [(pending?_of_lane? lane).1] at nothing
  cases nothing

theorem returning (kept : a.Kept h n) (lane : a.laneAt h n = some l)
    (answer : h.answer n = some (.ok (some (l.emitted (h.criteria n)))))
    (least : ∀ o ∈ (h.state n).lanes, l.key ≤ o.key) (calm : (h.calls n).isClear = false) :
    (a.returning n).Kept h (n + 1) := by
  obtain ⟨isOpen, current⟩ := kept.of_laneAt lane
  have open_end := kept.failedAt?_eq_none current
  have all_lt : ∀ t ∈ a.openedAt :: a.returnedAt, t < n := by
    simpa using ⟨kept.openedAt_lt, kept.returnedAt_lt⟩
  refine ⟨Nat.lt_succ_of_lt kept.openedAt_lt, ?_, ?_, ?_, ?_, ?_, ?_⟩
  · intro t ht
    rcases List.mem_append.mp ht with old | new
    · exact Nat.lt_succ_of_lt (kept.returnedAt_lt t old)
    · exact (List.mem_singleton.mp new) ▸ n.lt_succ_self
  · show ((a.openedAt :: a.returnedAt) ++ [n]).Pairwise (· < ·)
    rw [List.pairwise_append]
    exact ⟨kept.increasing, List.pairwise_singleton _ _, by simpa using all_lt⟩
  · -- the records that had passed are those that were returned, and the pending one
    have pending := (pending?_of_lane? current).1
    have split : ((a.returning n).passed h.criteria).take (a.returning n).returnedAt.length =
        (a.passed h.criteria).take a.returnedAt.length ++ [l.head] := by
      have count : (a.returning n).returnedAt.length = a.returnedAt.length + 1 := by
        simp [Account.returning]
      rw [passed_returning current, count, List.take_append_of_le_length (length_passed current).ge,
        List.take_add_one, ← pending?, pending]
      rfl
    rw [split]
    rw [Lane.emitted, show l.chunk = a.chunk by rw [(pending?_of_lane? current).2]] at answer
    exact List.rel_append kept.returned (.cons ⟨_, answer⟩ .nil)
  · intro t ht
    rcases List.mem_append.mp ht with old | new
    · rw [laneAt_returning (kept.returnedAt_lt t old).le]
      exact kept.least t old
    · obtain rfl := List.mem_singleton.mp new
      exact ⟨l, (laneAt_returning le_rfl).trans lane, answer, least⟩
  · intro t ht
    rw [Account.returning, open_end] at ht
    cases ht
  · intro s hs after clear
    rcases Nat.lt_succ_iff_lt_or_eq.mp hs with before | rfl
    · simp [isOpen.2 s before after] at clear
    · simp [calm] at clear

theorem failing (kept : a.Kept h n) (waits : a.waitingAt h n = some e)
    (answer : h.answer n = some (.error e)) (calm : (h.calls n).isClear = false) :
    (a.failing n).Kept h (n + 1) := by
  obtain ⟨isOpen, ⟨open_end, nothing⟩, failure⟩ := kept.of_waitingAt waits
  refine ⟨Nat.lt_succ_of_lt kept.openedAt_lt, kept.succ.returnedAt_lt, kept.increasing,
    kept.returned, ?_, ?_, ?_⟩
  · intro t ht
    rw [laneAt_failing (kept.returnedAt_lt t ht).le open_end]
    exact kept.least t ht
  · intro t ht
    obtain rfl := Option.some.inj ht
    have all_lt : ∀ s ∈ a.openedAt :: a.returnedAt, s < n := by
      simpa using ⟨kept.openedAt_lt, kept.returnedAt_lt⟩
    exact ⟨n.lt_succ_self, all_lt, nothing, e, failure, answer⟩
  · intro s hs after clear
    rcases Nat.lt_succ_iff_lt_or_eq.mp hs with before | rfl
    · simp [isOpen.2 s before after] at clear
    · simp [calm] at clear

/-- After a record has been returned, the successor of its lane is open, and a failure that was
found behind it waits. -/
theorem open_returning (kept : a.Kept h n) (lane : a.laneAt h n = some l)
    (kept' : (a.returning n).Kept h (n + 1)) (calm : (h.calls n).isClear = false) :
    (a.returning n).laneAt h (n + 1) = l.successor? (h.criteria n) ∧
      (a.returning n).waitingAt h (n + 1) = l.rest.error? (h.criteria n) := by
  obtain ⟨isOpen, current⟩ := kept.of_laneAt lane
  have stillOpen : (a.returning n).isOpen h (n + 1) := kept.isOpen_succ_iff.mpr ⟨isOpen, calm⟩
  rw [kept'.laneAt_eq, kept'.waitingAt_eq, if_pos stillOpen, if_pos stillOpen]
  exact ⟨lane?_returning current n,
    waiting?_returning current n (kept.failedAt?_eq_none current)⟩

/-- After the failure has been returned, nothing is open and nothing waits. -/
theorem open_failing (kept : a.Kept h n) (waits : a.waitingAt h n = some e)
    (kept' : (a.failing n).Kept h (n + 1)) :
    a.laneAt h n = none ∧ (a.failing n).laneAt h (n + 1) = none ∧
      (a.failing n).waitingAt h (n + 1) = none := by
  obtain ⟨-, ⟨-, nothing⟩, -⟩ := kept.of_waitingAt waits
  have noLane : a.lane? h.criteria = none := lane?_eq_none_iff.mpr nothing
  have noLane' : (a.failing n).lane? h.criteria = none := noLane
  have returned : (a.failing n).waiting? h.criteria = none := by simp [waiting?, Account.failing]
  rw [kept.laneAt_eq, kept'.laneAt_eq, kept'.waitingAt_eq, noLane, noLane', returned]
  simp only [ite_self, and_self]

theorem opened (h : Course) (chunk : Chunk) (x : Contents) (number n : ℕ) :
    Kept h (n + 1) ⟨chunk, x, number, n, [], none⟩ where
  openedAt_lt := n.lt_succ_self
  returnedAt_lt := by simp
  increasing := by simp
  returned := .nil
  least := by simp
  failed := by simp
  cleared := by simp

end Kept

/-- What may become of an account by the call at a time. -/
structure Continues (h : Course) (n : ℕ) (a a' : Account) : Prop where
  /-- The account is kept. -/
  kept : a'.Kept h (n + 1)
  /-- What was open before the call is what the account says of that time. -/
  laneAt : ∀ t ≤ n, a'.laneAt h t = a.laneAt h t
  /-- The same holds of a failure that waits. -/
  waitingAt : ∀ t ≤ n, a'.waitingAt h t = a.waitingAt h t
  /-- It is the same chunk, opened by the same call. -/
  opening : (a'.openedAt, a'.chunk, a'.contents) = (a.openedAt, a.chunk, a.contents)
  /-- The number of the lane does not change. -/
  number : a'.number = a.number
  /-- A chunk of which no record has passed will have none. -/
  passed : a.passed h.criteria = [] → a'.passed h.criteria = []

theorem Kept.continues (kept : a.Kept h n) : a.Continues h n a :=
  ⟨kept.succ, fun _ _ => rfl, fun _ _ => rfl, rfl, rfl, id⟩

end Account

/-- A merge holds what the accounts leave open at a time. -/
structure Matches (h : Course) (t : ℕ) (m : Merge) (books : List Account) : Prop where
  /-- Its lanes are those of the accounts. -/
  lanes : m.lanes.Perm (books.filterMap (Account.laneAt h t))
  /-- The failures that wait are those of the accounts. -/
  failures : m.failures.Perm (books.filterMap (Account.waitingAt h t))

/-- What is true of the accounts of all chunks that have been opened, in the order of their opening,
before a time; `m` is the merge at that time. -/
structure Ledger (h : Course) (n : ℕ) (m : Merge) (books : List Account) : Prop where
  /-- Each account is kept. -/
  kept : ∀ a ∈ books, a.Kept h n
  /-- Every record that was returned belongs to one account, and was returned once. -/
  records : (books.flatMap Account.returnedAt).Perm (h.times isRecord n)
  /-- Every failure that was returned belongs to one account. -/
  failures : (books.filterMap Account.failedAt?).Perm (h.times isFailure n)
  /-- At every time before, the merge held what the accounts left open. -/
  past : ∀ t < n, Matches h t (h.state t) books
  /-- So it does now. -/
  present : Matches h n m books
  /-- Lanes are numbered in the order in which their chunks were opened. -/
  numbers : books.Pairwise fun a b =>
    a.passed h.criteria ≠ [] → b.passed h.criteria ≠ [] → a.number < b.number
  /-- The next number is not in use. -/
  fresh : ∀ a ∈ books, a.passed h.criteria ≠ [] → a.number < m.nextNumber

section Lists

variable {α : Type*} {f : Account → Option α} {pre post books books' : List Account} {a : Account}

theorem filterMap_eq_of_forall₂ (same : List.Forall₂ (fun a a' => f a' = f a) books books') :
    books'.filterMap f = books.filterMap f := by
  induction same with
  | nil => rfl
  | cons same _ ih => rw [List.filterMap_cons, List.filterMap_cons, same, ih]

theorem exists_of_mem_forall₂ {R : Account → Account → Prop} (side : List.Forall₂ R books books')
    (ha : a ∈ books') : ∃ b ∈ books, R b a := by
  induction side with
  | nil => cases ha
  | @cons b b' _ _ related _ ih =>
    rcases List.mem_cons.mp ha with rfl | ha
    · exact ⟨b, List.mem_cons_self, related⟩
    · obtain ⟨c, hc, related⟩ := ih ha
      exact ⟨c, List.mem_cons_of_mem _ hc, related⟩

theorem filterMap_middle : ((pre ++ a :: post).filterMap f).Perm
    ((f a).toList ++ (pre ++ post).filterMap f) := by
  refine (List.perm_middle.filterMap f).trans ?_
  rw [List.filterMap_cons]
  cases f a <;> exact .refl _

theorem filterMap_concat : (books ++ [a]).filterMap f = books.filterMap f ++ (f a).toList := by
  rw [List.filterMap_append, List.filterMap_cons]
  cases f a <;> rfl

theorem flatMap_middle (f : Account → List α) : ((pre ++ a :: post).flatMap f).Perm
    (f a ++ (pre ++ post).flatMap f) := by
  simpa using (@List.perm_middle _ a pre post).flatMap_right f

end Lists

namespace Ledger

variable {h : Course} {n : ℕ} {m : Merge} {c : Criteria} {books books' : List Account}

/-- If every account is continued, and the answer of the call is explained, the accounts after the
call explain everything. -/
theorem advance (ledger : Ledger h n (h.state n) books)
    (continues : List.Forall₂ (Account.Continues h n) books books')
    (records : (books'.flatMap Account.returnedAt).Perm (h.times isRecord (n + 1)))
    (failures : (books'.filterMap Account.failedAt?).Perm (h.times isFailure (n + 1)))
    (present : Matches h (n + 1) m books')
    (more : (h.state n).nextNumber ≤ m.nextNumber) : Ledger h (n + 1) m books' where
  kept a ha := by
    obtain ⟨_, _, continued⟩ := exists_of_mem_forall₂ continues ha
    exact continued.kept
  records := records
  failures := failures
  past t ht := by
    -- what the accounts say of earlier times has not changed
    have le : t ≤ n := Nat.le_of_lt_succ ht
    have before : Matches h t (h.state t) books := by
      rcases Nat.lt_or_eq_of_le le with lt | rfl
      · exact ledger.past t lt
      · exact ledger.present
    constructor
    · rw [filterMap_eq_of_forall₂ (continues.imp fun _ _ continued => continued.laneAt t le)]
      exact before.lanes
    · rw [filterMap_eq_of_forall₂ (continues.imp fun _ _ continued => continued.waitingAt t le)]
      exact before.failures
  present := present
  numbers := by
    have numbers := ledger.numbers
    clear ledger records failures present more
    induction continues with
    | nil => exact .nil
    | @cons a a' books books' continued others ih =>
      obtain ⟨first, rest⟩ := List.pairwise_cons.mp numbers
      refine .cons (fun b' hb' => ?_) (ih rest)
      obtain ⟨b, hb, other⟩ := exists_of_mem_forall₂ others hb'
      rw [continued.number, other.number]
      exact fun ha' hb' => first b hb (mt continued.passed ha') (mt other.passed hb')
  fresh a' ha' := by
    obtain ⟨a, ha, continued⟩ := exists_of_mem_forall₂ continues ha'
    rw [continued.number]
    exact fun passed => (ledger.fresh a ha (mt continued.passed passed)).trans_le more

/-- If no account changes, and nothing is returned, the accounts still explain everything. -/
theorem quiet (ledger : Ledger h n (h.state n) books) (noRecord : isRecord (h.answer n) = false)
    (noFailure : isFailure (h.answer n) = false) (present : Matches h (n + 1) m books)
    (more : (h.state n).nextNumber ≤ m.nextNumber) : Ledger h (n + 1) m books := by
  refine ledger.advance (List.forall₂_same.mpr fun a ha => (ledger.kept a ha).continues) ?_ ?_
    present more
  · simpa [Course.times_succ, noRecord] using ledger.records
  · simpa [Course.times_succ, noFailure] using ledger.failures

/-- What the accounts leave open stays open until the merge is cleared. -/
theorem filterMap_laneAt_succ (kept : ∀ a ∈ books, a.Kept h n)
    (calm : (h.calls n).isClear = false) :
    books.filterMap (Account.laneAt h (n + 1)) = books.filterMap (Account.laneAt h n) ∧
      books.filterMap (Account.waitingAt h (n + 1)) = books.filterMap (Account.waitingAt h n) := by
  constructor
  · refine List.filterMap_congr fun a ha => ?_
    simp [(kept a ha).laneAt_succ, calm]
  · refine List.filterMap_congr fun a ha => ?_
    simp [(kept a ha).waitingAt_succ, calm]

/-- Closing all dumps closes all accounts. -/
theorem clear (ledger : Ledger h n (h.state n) books) (call : h.calls n = .clear) :
    Ledger h (n + 1) (h.state (n + 1)) books := by
  have state : h.state (n + 1) = (h.state n).clear := by rw [Course.state, call]; rfl
  have answer : h.answer n = none := by rw [Course.answer, call]; rfl
  have noLane : books.filterMap (Account.laneAt h (n + 1)) = [] := by
    rw [List.filterMap_eq_nil_iff]
    intro a ha
    simp [(ledger.kept a ha).laneAt_succ, call, Call.isClear]
  have nothingWaits : books.filterMap (Account.waitingAt h (n + 1)) = [] := by
    rw [List.filterMap_eq_nil_iff]
    intro a ha
    simp [(ledger.kept a ha).waitingAt_succ, call, Call.isClear]
  refine ledger.quiet (by rw [answer]; rfl) (by rw [answer]; rfl) ⟨?_, ?_⟩ ?_
  · rw [state, noLane]
    exact .refl _
  · rw [state, nothingWaits]
    exact .refl _
  · rw [state]
    exact le_rfl

/-- One account is continued by another, and all others stay as they are. -/
theorem continues_middle {pre post : List Account} {a a' : Account}
    (kept : ∀ b ∈ pre ++ a :: post, b.Kept h n) (continued : a.Continues h n a') :
    List.Forall₂ (Account.Continues h n) (pre ++ a :: post) (pre ++ a' :: post) := by
  refine List.rel_append (List.forall₂_same.mpr fun b hb => ?_)
    (.cons continued (List.forall₂_same.mpr fun b hb => ?_))
  · exact (kept b (List.mem_append_left _ hb)).continues
  · exact (kept b (List.mem_append_right _ (List.mem_cons_of_mem _ hb))).continues

/-- If one account is continued, and the answer of the call is explained, it is enough to know what
the call makes of the lane and of the failure of this account. -/
theorem replace {pre post : List Account} {a a' : Account}
    (ledger : Ledger h n (h.state n) (pre ++ a :: post)) (calm : (h.calls n).isClear = false)
    (continued : a.Continues h n a')
    (records : ((pre ++ a' :: post).flatMap Account.returnedAt).Perm (h.times isRecord (n + 1)))
    (failures : ((pre ++ a' :: post).filterMap Account.failedAt?).Perm (h.times isFailure (n + 1)))
    (lanes : ∀ rest, (h.state n).lanes.Perm ((a.laneAt h n).toList ++ rest) →
      m.lanes.Perm ((a'.laneAt h (n + 1)).toList ++ rest))
    (waiting : ∀ rest, (h.state n).failures.Perm ((a.waitingAt h n).toList ++ rest) →
      m.failures.Perm ((a'.waitingAt h (n + 1)).toList ++ rest))
    (more : (h.state n).nextNumber ≤ m.nextNumber) :
    Ledger h (n + 1) m (pre ++ a' :: post) := by
  have keptOthers : ∀ b ∈ pre ++ post, b.Kept h n := by
    intro b hb
    apply ledger.kept
    rcases List.mem_append.mp hb with before | behind
    · exact List.mem_append_left _ before
    · exact List.mem_append_right _ (List.mem_cons_of_mem _ behind)
  obtain ⟨lanesStay, failuresStay⟩ := filterMap_laneAt_succ keptOthers calm
  refine ledger.advance (continues_middle ledger.kept continued) records failures ⟨?_, ?_⟩ more
  · have after := lanes _ (ledger.present.lanes.trans filterMap_middle)
    rw [← lanesStay] at after
    exact after.trans filterMap_middle.symm
  · have after := waiting _ (ledger.present.failures.trans filterMap_middle)
    rw [← failuresStay] at after
    exact after.trans filterMap_middle.symm

/-- When a failure is returned, it is the one of an account whose failure waits. -/
theorem failure {e : FeedError} {failures : List FeedError}
    (ledger : Ledger h n (h.state n) books) (calm : (h.calls n).isClear = false)
    (waiting : (h.state n).failures = e :: failures) (answer : h.answer n = some (.error e))
    (state : h.state (n + 1) = { h.state n with failures := failures }) :
    ∃ books', List.Forall₂ (Account.Continues h n) books books' ∧
      Ledger h (n + 1) (h.state (n + 1)) books' := by
  have failuresNow := ledger.present.failures
  rw [waiting] at failuresNow
  obtain ⟨a, ha, waits⟩ := List.mem_filterMap.mp (failuresNow.subset List.mem_cons_self)
  obtain ⟨pre, post, rfl⟩ := List.append_of_mem ha
  have kept := ledger.kept a ha
  -- the account of this failure is closed, and all others stay as they are
  have kept' := kept.failing waits answer calm
  obtain ⟨-, ⟨open_end, -⟩, -⟩ := kept.of_waitingAt waits
  obtain ⟨noLane, noLane', nothingWaits⟩ := kept.open_failing waits kept'
  have continued : a.Continues h n (a.failing n) :=
    { kept := kept'
      laneAt := fun t ht => Account.laneAt_failing ht open_end
      waitingAt := fun t ht => Account.waitingAt_failing ht open_end
      opening := rfl
      number := rfl
      passed := id }
  refine ⟨_, continues_middle ledger.kept continued,
    ledger.replace calm continued ?_ ?_ ?_ ?_ (by rw [state])⟩
  · have same : (pre ++ a.failing n :: post).flatMap Account.returnedAt =
        (pre ++ a :: post).flatMap Account.returnedAt := by simp [Account.failing]
    simpa [same, Course.times_succ, answer, isRecord] using ledger.records
  · have before := filterMap_middle.symm.trans ledger.failures
    rw [open_end] at before
    have after := @filterMap_middle _ Account.failedAt? pre post (a.failing n)
    rw [Course.times_succ, answer]
    exact (after.trans (before.cons n)).trans (List.perm_append_singleton _ _).symm
  · intro rest lanes
    rw [noLane] at lanes
    rwa [noLane', state]
  · intro rest waiting'
    rw [waiting, waits] at waiting'
    rw [nothingWaits, state]
    exact waiting'.cons_inv

/-- When a record is returned, it is the pending one of an account whose lane has the least key. -/
theorem record {l : Lane} {others : List Lane} (ledger : Ledger h n (h.state n) books)
    (calm : (h.calls n).isClear = false) (noFailure : (h.state n).failures = [])
    (lanes : (h.state n).lanes.Perm (l :: others)) (least : ∀ o ∈ others, l.key ≤ o.key)
    (answer : h.answer n = some (.ok (some (l.emitted (h.criteria n)))))
    (state : h.state (n + 1) = (h.state n).afterLane (h.criteria n) l others) :
    ∃ books', List.Forall₂ (Account.Continues h n) books books' ∧
      Ledger h (n + 1) (h.state (n + 1)) books' := by
  have lanesNow := lanes.symm.trans ledger.present.lanes
  obtain ⟨a, ha, lane⟩ := List.mem_filterMap.mp (lanesNow.subset List.mem_cons_self)
  obtain ⟨pre, post, rfl⟩ := List.append_of_mem ha
  have kept := ledger.kept a ha
  have leastOfAll : ∀ o ∈ (h.state n).lanes, l.key ≤ o.key := by
    intro o ho
    rcases List.mem_cons.mp (lanes.subset ho) with rfl | ho
    · exact le_rfl
    · exact least o ho
  have kept' := kept.returning lane answer leastOfAll calm
  obtain ⟨laneAfter, waitingAfter⟩ := kept.open_returning lane kept' calm
  have somePassed : a.passed h.criteria ≠ [] := by
    rw [← List.length_pos_iff, Account.length_passed (kept.of_laneAt lane).2]
    exact Nat.succ_pos _
  have continued : a.Continues h n (a.returning n) :=
    { kept := kept'
      laneAt := fun t ht => Account.laneAt_returning ht
      waitingAt := fun t ht => Account.waitingAt_returning ht
      opening := rfl
      number := rfl
      passed := fun none_passed => absurd none_passed somePassed }
  refine ⟨_, continues_middle ledger.kept continued,
    ledger.replace calm continued ?_ ?_ ?_ ?_ (by rw [state]; rfl)⟩
  · have before := (flatMap_middle Account.returnedAt).symm.trans ledger.records
    rw [Course.times_succ, answer]
    refine (flatMap_middle Account.returnedAt).trans ?_
    refine .trans ?_ (before.append_right [n])
    rw [Account.returning, List.append_assoc, List.append_assoc]
    exact List.perm_append_comm.append_left _
  · have same : (pre ++ a.returning n :: post).filterMap Account.failedAt? =
        (pre ++ a :: post).filterMap Account.failedAt? := by
      simp [Account.returning, List.filterMap_append, List.filterMap_cons]
    simpa [same, Course.times_succ, answer, isFailure] using ledger.failures
  · intro rest lanes'
    rw [lane] at lanes'
    rw [laneAfter, state]
    exact ((lanes.symm.trans lanes').cons_inv.append_right _).trans List.perm_append_comm
  · intro rest waiting
    -- no failure waits, so the only one that may wait afterwards is that of the account
    rw [noFailure, List.nil_perm, List.append_eq_nil_iff] at waiting
    rw [waitingAfter, waiting.2, List.append_nil, state, Merge.afterLane, noFailure]
    exact .refl _

/-- Answering a question changes at most one account. -/
theorem next (ledger : Ledger h n (h.state n) books) (call : h.calls n = .next c) :
    ∃ books', List.Forall₂ (Account.Continues h n) books books' ∧
      Ledger h (n + 1) (h.state (n + 1)) books' := by
  have state : h.state (n + 1) = ((h.state n).next c).2 := by rw [Course.state, call]; rfl
  have answer : h.answer n = some ((h.state n).next c).1 := by rw [Course.answer, call]; rfl
  have criteria : c = h.criteria n := by rw [Course.criteria, call]; rfl
  have calm : (h.calls n).isClear = false := by rw [call]; rfl
  have advances := (h.state n).advances_next c
  generalize (h.state n).next c = result at state answer advances
  cases advances with
  | ended noLane nothingWaits =>
    obtain ⟨lanesStay, failuresStay⟩ := filterMap_laneAt_succ ledger.kept calm
    refine ⟨books, List.forall₂_same.mpr fun a ha => (ledger.kept a ha).continues, ?_⟩
    refine ledger.quiet (by rw [answer]; rfl) (by rw [answer]; rfl) ⟨?_, ?_⟩ (by rw [state])
    · rw [state, lanesStay]
      exact ledger.present.lanes
    · rw [state, failuresStay]
      exact ledger.present.failures
  | failure waiting => exact ledger.failure calm waiting answer state
  | record noFailure lanes least =>
    rw [criteria] at answer state
    exact ledger.record calm noFailure lanes least answer state

/-! ## Opening chunks -/

theorem addChunk {chunk : Chunk} {x : Contents} (ledger : Ledger h (n + 1) m books)
    (criteria : h.criteria n = c) (opens : m.opener chunk = .ok x) :
    Ledger h (n + 1) (m.addChunk c chunk)
      (books ++ [⟨chunk, x, m.nextNumber, n, [], none⟩]) := by
  let new : Account := ⟨chunk, x, m.nextNumber, n, [], none⟩
  have kept : new.Kept h (n + 1) := .opened h chunk x m.nextNumber n
  have isOpen : new.isOpen h (n + 1) :=
    ⟨n.lt_succ_self, fun s hs after => absurd (Nat.le_of_lt_succ hs) (Nat.not_le.mpr after)⟩
  have lane : new.laneAt h (n + 1) = m.opened? c chunk := by
    rw [kept.laneAt_eq, if_pos isOpen, Account.lane?_opened, criteria, opened?, opens]
  have waits : new.waitingAt h (n + 1) = m.openError? c chunk := by
    rw [kept.waitingAt_eq, if_pos isOpen, Account.waiting?_opened, criteria, openError?, opens]
  -- of the times before, the new account says nothing
  have early : ∀ t < n + 1, new.laneAt h t = none ∧ new.waitingAt h t = none := by
    intro t ht
    have closed : ¬ new.isOpen h t := fun isOpen => Nat.not_le.mpr isOpen.1 (Nat.le_of_lt_succ ht)
    exact ⟨if_neg closed, if_neg closed⟩
  rw [addChunk_eq]
  refine ⟨?_, ?_, ?_, fun t ht => ⟨?_, ?_⟩, ⟨?_, ?_⟩, ?_, ?_⟩
  · intro a ha
    rcases List.mem_append.mp ha with old | isNew
    · exact ledger.kept a old
    · exact List.mem_singleton.mp isNew ▸ kept
  · simpa using ledger.records
  · simpa using ledger.failures
  · rw [filterMap_concat, (early t ht).1, Option.toList_none, List.append_nil]
    exact (ledger.past t ht).lanes
  · rw [filterMap_concat, (early t ht).2, Option.toList_none, List.append_nil]
    exact (ledger.past t ht).failures
  · rw [filterMap_concat, lane]
    exact ledger.present.lanes.append_right _
  · rw [filterMap_concat, waits]
    exact ledger.present.failures.append_right _
  · rw [List.pairwise_append]
    refine ⟨ledger.numbers, List.pairwise_singleton _ _, fun a ha b hb passed _ => ?_⟩
    obtain rfl := List.mem_singleton.mp hb
    exact ledger.fresh a ha passed
  · intro a ha passed
    rcases List.mem_append.mp ha with old | isNew
    · exact (ledger.fresh a old passed).trans_le (Nat.le_add_right _ _)
    · obtain rfl := List.mem_singleton.mp isNew
      -- a record has passed, so the chunk has got a lane, and its number is used up
      obtain ⟨d, ds, first⟩ := List.exists_cons_of_ne_nil passed
      have lane' : new.lane? h.criteria = m.opened? c chunk := by
        rw [← lane, kept.laneAt_eq, if_pos isOpen]
      rw [Account.lane?, Account.pending?, first] at lane'
      simp [← lane', new]

/-- Opening chunks starts an account of each that opens, in their order. -/
theorem addAll {chunks : List Chunk} (ledger : Ledger h (n + 1) m books)
    (criteria : h.criteria n = c) :
    ∃ new, Ledger h (n + 1) (m.add c chunks) (books ++ new) ∧
      new.map (fun a => (a.openedAt, a.chunk, a.contents)) =
        ((Call.add c chunks).opened m.opener).map (n, ·) := by
  induction chunks generalizing m books with
  | nil => exact ⟨[], by simpa [add] using ledger, rfl⟩
  | cons chunk chunks ih =>
    cases opens : m.opener chunk with
    | error e =>
      obtain ⟨new, ledger', openings⟩ := ih ledger
      have same : m.addChunk c chunk = m := by simp [Merge.addChunk, opens]
      refine ⟨new, ?_, ?_⟩
      · rwa [add, List.foldl_cons, same]
      · rw [openings]
        simp [Call.opened, opens, Except.toOption]
    | ok x =>
      obtain ⟨new, ledger', openings⟩ := ih (ledger.addChunk criteria opens)
      refine ⟨⟨chunk, x, m.nextNumber, n, [], none⟩ :: new, ?_, ?_⟩
      · simpa [add] using ledger'
      · rw [List.map_cons, openings, opener_addChunk]
        simp [Call.opened, opens, Except.toOption]

/-- A call that opens chunks leaves the other accounts as they are. -/
theorem add {chunks : List Chunk} (ledger : Ledger h n (h.state n) books)
    (call : h.calls n = .add c chunks) :
    ∃ new, Ledger h (n + 1) (h.state (n + 1)) (books ++ new) ∧
      new.map (fun a => (a.openedAt, a.chunk, a.contents)) =
        ((h.calls n).opened h.opener).map (n, ·) := by
  have state : h.state (n + 1) = (h.state n).add c chunks := by rw [Course.state, call]; rfl
  have answer : h.answer n = none := by rw [Course.answer, call]; rfl
  have calm : (h.calls n).isClear = false := by rw [call]; rfl
  obtain ⟨lanesStay, failuresStay⟩ := filterMap_laneAt_succ ledger.kept calm
  have before : Ledger h (n + 1) (h.state n) books := by
    refine ledger.quiet (by rw [answer]; rfl) (by rw [answer]; rfl) ⟨?_, ?_⟩ le_rfl
    · rw [lanesStay]
      exact ledger.present.lanes
    · rw [failuresStay]
      exact ledger.present.failures
  rw [state, call, ← h.opener_state n]
  exact before.addAll (by rw [Course.criteria, call]; rfl)

end Ledger

/-! ## Courses -/

namespace Course

/-- Every course of calls has a ledger of the chunks that were opened. -/
theorem exists_ledger (h : Course) (n : ℕ) : ∃ books : List Account,
    books.map (fun a => (a.openedAt, a.chunk, a.contents)) = h.openings n ∧
      Ledger h n (h.state n) books := by
  induction n with
  | zero => exact ⟨[], rfl, by simp, .nil, .nil, by simp, ⟨.nil, .nil⟩, .nil, by simp⟩
  | succ n ih =>
    obtain ⟨books, openings, ledger⟩ := ih
    rw [openings_succ]
    cases call : h.calls n with
    | add c chunks =>
      obtain ⟨new, ledger', openings'⟩ := ledger.add call
      exact ⟨books ++ new, by rw [List.map_append, openings, openings', call], ledger'⟩
    | next c =>
      obtain ⟨books', continues, ledger'⟩ := ledger.next call
      refine ⟨books', ?_, ledger'⟩
      have same := filterMap_eq_of_forall₂ (f := fun a => some (a.openedAt, a.chunk, a.contents))
        (continues.imp fun _ _ continued => congrArg some continued.opening)
      simpa [Call.opened, List.filterMap_eq_map'] using same.trans (by simpa using openings)
    | clear => exact ⟨books, by simpa [Call.opened] using openings, ledger.clear call⟩

end Course

namespace Account

variable {h : Course} {n : ℕ} {a : Account}

/-- All records that have passed have been returned, but for the pending one. -/
theorem passed_eq (criteria : ℕ → Criteria) (a : Account) : a.passed criteria =
    (a.passed criteria).take a.returnedAt.length ++ (a.pending? criteria).toList := by
  rw [pending?, ← List.take_add_one]
  exact (List.take_of_length_le length_passed_le).symm

/-- Of a chunk of which nothing is open and nothing waits, everything has been returned. -/
theorem Kept.of_nothing (kept : a.Kept h n) (isOpen : a.isOpen h n) (noLane : a.laneAt h n = none)
    (nothingWaits : a.waitingAt h n = none) :
    a.pending? h.criteria = none ∧ a.failedAt?.isSome = a.contents.failure?.isSome := by
  rw [kept.laneAt_eq, if_pos isOpen] at noLane
  rw [kept.waitingAt_eq, if_pos isOpen, waiting?, noLane] at nothingWaits
  refine ⟨lane?_eq_none_iff.mp noLane, ?_⟩
  cases failed : a.failedAt? with
  | none => simpa [failed] using nothingWaits
  | some t =>
    obtain ⟨-, -, -, e, failure, -⟩ := kept.failed t failed
    rw [failure]
    rfl

end Account

/-- **Conservation.** Whatever calls are made, in any order and with any criteria, there is an
account of each chunk that has been opened, in the order of opening, and the accounts form a ledger,
which explains all answers and all that the merge holds. Each record of a chunk has been tested once
or is unread. Each that has passed has been returned, with the description of the chunk, or is
pending. If nothing more comes, the chunks that were opened after the last clearing have nothing
unread and nothing pending, and have returned their failures. -/
theorem conservation (h : Course) (n : ℕ) : ∃ books : List Account,
    books.map (fun a => (a.openedAt, a.chunk, a.contents)) = h.openings n ∧
    Ledger h n (h.state n) books ∧
    (∀ a ∈ books,
      (a.tests h.criteria).map Prod.snd ++ (a.unread h.criteria).records = a.contents.records ∧
      a.passed h.criteria =
        (a.passed h.criteria).take a.returnedAt.length ++ (a.pending? h.criteria).toList ∧
      List.Forall₂ (fun t d => ∃ r, h.answer t = some (.ok (some r)) ∧ r.IsOf a.chunk d)
        a.returnedAt ((a.passed h.criteria).take a.returnedAt.length)) ∧
    ∀ c, ((h.state n).next c).1 = .ok none → ∀ a ∈ books, a.isOpen h n →
      (a.unread h.criteria).records = [] ∧ a.pending? h.criteria = none ∧
      a.failedAt?.isSome = a.contents.failure?.isSome := by
  obtain ⟨books, openings, ledger⟩ := h.exists_ledger n
  refine ⟨books, openings, ledger, fun a ha => ⟨a.tests_append_unread, a.passed_eq _, ?_⟩, ?_⟩
  · refine (ledger.kept a ha).returned.imp ?_
    rintro t d ⟨position, answer⟩
    exact ⟨_, answer, d.isOf_ofChunk a.chunk position⟩
  intro c nothing a ha isOpen
  obtain ⟨noLanes, nothingWaits⟩ := isEmpty_iff.mp (next_eq_none_iff.mp nothing)
  -- the merge holds nothing, so the accounts leave nothing open
  have lanes := ledger.present.lanes
  have failures := ledger.present.failures
  rw [noLanes, List.nil_perm, List.filterMap_eq_nil_iff] at lanes
  rw [nothingWaits, List.nil_perm, List.filterMap_eq_nil_iff] at failures
  obtain ⟨nothingPends, failed⟩ := (ledger.kept a ha).of_nothing isOpen (lanes a ha) (failures a ha)
  exact ⟨Account.unread_eq_nil nothingPends, nothingPends, failed⟩

/-- The sample chunks are opened, and then the merge is asked again and again. -/
def sampleCourse : Course where
  opener := Opener.sample
  calls t := if t = 0 then .add {} Chunk.samples else .next {}

/-- The chunk that cannot be opened has no account. The other dumps hold five records; the failure of
the torn one is returned directly behind its last record, before a later record of another dump. -/
theorem conservation_samples : ∃ books : List Account,
    books.map (fun a => (a.openedAt, a.chunk.locator)) = [(0, "wide"), (0, "torn"), (0, "late")] ∧
    (books.flatMap Account.returnedAt).Perm [1, 2, 3, 5, 6] ∧
    books.filterMap Account.failedAt? = [4] ∧
    ∀ a ∈ books, a.isOpen sampleCourse 7 → (a.unread sampleCourse.criteria).records = [] ∧
      a.pending? sampleCourse.criteria = none := by
  obtain ⟨books, openings, ledger, -, nothing⟩ := conservation sampleCourse 7
  have records : sampleCourse.times isRecord 7 = [1, 2, 3, 5, 6] := by decide +kernel
  have failures : sampleCourse.times isFailure 7 = [4] := by decide +kernel
  refine ⟨books, ?_, records ▸ ledger.records, ?_, fun a ha isOpen => ?_⟩
  · have names := congrArg (List.map fun o : ℕ × Chunk × Contents => (o.1, o.2.1.locator)) openings
    rw [List.map_map] at names
    exact names
  · exact List.perm_singleton.mp (failures ▸ ledger.failures)
  · have empty := nothing {} (by decide +kernel) a ha isOpen
    exact ⟨empty.1, empty.2.1⟩

end RouteFeed.Merge
