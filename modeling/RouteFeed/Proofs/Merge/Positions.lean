import RouteFeed.Proofs.Merge.Conservation

/-!
# Positions

A record gets its position when it is delivered. Whether it is the last one of its dump depends on
what lies behind it there, and on the criteria of the call that delivers it, since this call looks
for the next record that passes. So whatever the criteria of the calls, and whether the dump ends,
fails, or has only rejected records left, the positions are right in the end: the records that a
dump delivers are those that have passed, with the positions that belong to their number.

## Main definitions

* `Position.series` — the positions of so many records
* `Merge.Account.IsFinished` — the dump of a chunk has been run to its end

## Main results

* `passedBy_take` — the first calls see to the first records that pass
* `Merge.Account.Kept.answers_eq` — what has been returned of a chunk
* `Merge.delivers_in_series` — the positions of the chunks that have been run to their ends
-/

namespace RouteFeed

/-! ## The positions of a dump -/

/-- The positions of so many records, the first to the last. -/
def Position.series : ℕ → List Position
  | 0 => []
  | 1 => [.last]
  | n + 2 => .first :: (List.replicate n .middle ++ [.last])

namespace Position

/-- Only the last one of some records is in the last position. -/
theorem series_succ (n : ℕ) : ∃ front, series (n + 1) = front ++ [.last] ∧ .last ∉ front := by
  cases n with
  | zero => exact ⟨[], rfl, List.not_mem_nil⟩
  | succ n => exact ⟨.first :: List.replicate n .middle, rfl, by simp⟩

end Position

namespace Chunk

variable (chunk : Chunk)

/-- A record that is delivered is in the last position if none comes after it. -/
theorem getElem?_deliver (before : ℕ) (ds : List Decoded) (i : ℕ) :
    (chunk.deliver before ds)[i]? = ds[i]?.map fun d => d.ofChunk chunk
      (if ds[i + 1]?.isNone then .last else if before + i = 0 then .first else .middle) := by
  fun_induction Chunk.deliver chunk before ds generalizing i with
  | case1 => simp
  | case2 before d => cases i <;> simp
  | case3 before d next rest ih =>
    cases i with
    | zero => simp
    | succ i =>
      rw [List.getElem?_cons_succ, ih]
      simp [Nat.add_right_comm before 1 i, ← Nat.add_assoc]

theorem length_deliver (before : ℕ) (ds : List Decoded) :
    (chunk.deliver before ds).length = ds.length := by
  have times := congrArg List.length (chunk.deliver_map_time before ds)
  rwa [List.length_map, List.length_map] at times

/-- Records behind others are in the middle, but for the last one. -/
theorem map_position_deliver_succ (before : ℕ) (d : Decoded) (ds : List Decoded) :
    (chunk.deliver (before + 1) (d :: ds)).map Record.position =
      List.replicate ds.length .middle ++ [.last] := by
  induction ds generalizing before d with
  | nil => rfl
  | cons next rest ih =>
    rw [deliver, List.map_cons, ih]
    rfl

/-- The records of a dump have the positions that belong to their number. -/
theorem map_position_deliver (ds : List Decoded) :
    (chunk.deliver 0 ds).map Record.position = Position.series ds.length := by
  match ds with
  | [] => rfl
  | [d] => rfl
  | d :: next :: rest =>
    rw [deliver, List.map_cons, map_position_deliver_succ]
    rfl

end Chunk

/-! ## The first calls -/

/-- Of several calls the first see to the first records that pass. -/
theorem passedBy_take (criteria : ℕ → Criteria) (ts : List ℕ) (ds : List Decoded) (k : ℕ) :
    passedBy criteria (testsFrom criteria (ts.take k) ds) =
      (passedBy criteria (testsFrom criteria ts ds)).take k := by
  fun_induction testsFrom criteria ts ds generalizing k with
  | case1 => simp
  | case2 => simp
  | case3 t ts d ds ih =>
    cases k with
    | zero => simp
    | succ k =>
      rw [List.take_succ_cons, testsFrom, passedBy_cons, passedBy_cons]
      cases hd : (criteria t).screen d with
      | none => simpa [hd] using ih (k + 1)
      | some kept =>
        -- the first call has found its record, and the others go on behind it
        simpa [hd] using ih k

namespace Merge.Account

variable {h : Course} {n t : ℕ} {a : Account} {l : Lane} {before after : List ℕ}

/-- When the first calls on a chunk have been made, the first records have passed. -/
theorem passed_of_calls {b : Account} {k : ℕ} (criteria : ℕ → Criteria)
    (contents : b.contents = a.contents)
    (calls : b.openedAt :: b.returnedAt = (a.openedAt :: a.returnedAt).take k) :
    b.passed criteria = (a.passed criteria).take k := by
  rw [passed, tests, contents, calls, passedBy_take]
  rfl

/-- At the time of a record that was returned, only those before it had been. -/
theorem Kept.returnedAt_upTo (kept : a.Kept h n) (returned : a.returnedAt = before ++ t :: after) :
    (a.upTo t).returnedAt = before := by
  have increasing := kept.increasing.of_cons
  rw [returned, List.pairwise_append, List.pairwise_cons] at increasing
  obtain ⟨-, ⟨later, -⟩, earlier⟩ := increasing
  have front : before.filter (· < t) = before := by
    rw [List.filter_eq_self]
    exact fun s hs => decide_eq_true (earlier s hs t List.mem_cons_self)
  have back : (t :: after).filter (· < t) = [] := by
    rw [List.filter_eq_nil_iff, List.forall_mem_cons]
    exact ⟨by simp, fun s hs => by simpa using (later s hs).le⟩
  rw [upTo, returned, List.filter_append, front, back, List.append_nil]

/-- A record that was returned is the one that had passed, in the position that it has among all
that have. -/
theorem Kept.answer_eq (kept : a.Kept h n) (returned : a.returnedAt = before ++ t :: after) :
    ∃ r, (a.chunk.deliver 0 (a.passed h.criteria))[before.length]? = some r ∧
      h.answer t = some (.ok (some r)) := by
  obtain ⟨l, laneAt, answer, -⟩ := kept.least t (by simp [returned])
  rw [Account.laneAt, Option.ite_none_right_eq_some] at laneAt
  obtain ⟨-, lane⟩ := laneAt
  have earlier := kept.returnedAt_upTo returned
  -- before the call its record was pending, and the call looked for the one behind it
  have passedBefore : (a.upTo t).passed h.criteria =
      (a.passed h.criteria).take (before.length + 1) := by
    refine passed_of_calls h.criteria rfl ?_
    rw [earlier, List.take_succ_cons, returned, List.take_left]
    rfl
  have passedAfter : ((a.upTo t).returning t).passed h.criteria =
      (a.passed h.criteria).take (before.length + 2) := by
    refine passed_of_calls h.criteria rfl ?_
    show a.openedAt :: ((a.upTo t).returnedAt ++ [t]) = _
    rw [earlier, List.take_succ_cons, returned, List.append_cons before t after,
      List.take_left' (by simp)]
  obtain ⟨pending, shape⟩ := pending?_of_lane? lane
  have found : (a.passed h.criteria)[before.length]? = some l.head := by
    rw [pending?, passedBefore, earlier, List.getElem?_take_of_lt (Nat.lt_succ_self _)] at pending
    exact pending
  have behind : (l.successor? (h.criteria t)).isNone =
      (a.passed h.criteria)[before.length + 1]?.isNone := by
    rw [← lane?_returning lane, Account.lane?, Option.isNone_map, pending?, passedAfter,
      Account.returning, earlier, List.length_append, List.length_singleton,
      List.getElem?_take_of_lt (Nat.lt_succ_self _)]
  refine ⟨l.emitted (h.criteria t), ?_, answer⟩
  have delivered : l.delivered = before.length := by rw [shape]; exact congrArg List.length earlier
  have chunk : l.chunk = a.chunk := by rw [shape]; rfl
  rw [Chunk.getElem?_deliver, found, Option.map_some, Lane.emitted, behind, delivered, chunk,
    Nat.zero_add]

/-- The records that were returned are the first of the dump that all records make which have
passed. -/
theorem Kept.answers_eq (kept : a.Kept h n) :
    a.returnedAt.map h.answer =
      ((a.chunk.deliver 0 (a.passed h.criteria)).take a.returnedAt.length).map
        fun r => some (.ok (some r)) := by
  refine List.ext_getElem? fun i => ?_
  rw [List.getElem?_map, List.getElem?_map]
  rcases Nat.lt_or_ge i a.returnedAt.length with inside | outside
  · have split : a.returnedAt =
        a.returnedAt.take i ++ a.returnedAt[i] :: a.returnedAt.drop (i + 1) := by
      rw [List.getElem_cons_drop, List.take_append_drop]
    obtain ⟨r, record, answer⟩ := kept.answer_eq split
    rw [List.length_take_of_le inside.le] at record
    rw [List.getElem?_take_of_lt inside, record, List.getElem?_eq_getElem inside, Option.map_some,
      Option.map_some, answer]
  · rw [List.getElem?_eq_none outside, List.getElem?_take_eq_none outside]
    rfl

/-! ## Chunks that have been run to their ends -/

/-- The dump of a chunk has been run to its end: at some time after the chunk was opened, the merge
not having been cleared in between, there was nothing more to deliver of it. -/
def IsFinished (h : Course) (n : ℕ) (a : Account) : Prop :=
  ∃ t ≤ n, a.isOpen h t ∧ a.laneAt h t = none

/-- Of times in their order the earlier ones come first. -/
theorem filter_lt_isPrefix {ts : List ℕ} (increasing : ts.Pairwise (· < ·)) (t : ℕ) :
    ts.filter (· < t) <+: ts := by
  induction ts with
  | nil => exact List.nil_prefix
  | cons s ts ih =>
    rw [List.pairwise_cons] at increasing
    rcases Nat.lt_or_ge s t with early | late
    · rw [List.filter_cons, if_pos (decide_eq_true early), List.cons_prefix_cons]
      exact ⟨rfl, ih increasing.2⟩
    · have none_early : (s :: ts).filter (· < t) = [] := by
        rw [List.filter_eq_nil_iff, List.forall_mem_cons]
        exact ⟨by simpa using late, fun u hu => by simpa using late.trans (increasing.1 u hu).le⟩
      rw [none_early]
      exact List.nil_prefix

/-- When a dump has been run to its end, as many records have been returned as have passed. -/
theorem Kept.length_returnedAt (kept : a.Kept h n) (finished : a.IsFinished h n) :
    a.returnedAt.length = (a.passed h.criteria).length := by
  obtain ⟨t, -, isOpen, noLane⟩ := finished
  rw [Account.laneAt, if_pos isOpen, lane?_eq_none_iff, pending?,
    List.getElem?_eq_none_iff] at noLane
  obtain ⟨later, split⟩ := filter_lt_isPrefix kept.increasing.of_cons t
  -- the calls so far had found what passes, and the last of them found nothing more
  have passedThen : (a.upTo t).passed h.criteria =
      (a.passed h.criteria).take ((a.upTo t).returnedAt.length + 1) := by
    refine passed_of_calls h.criteria rfl ?_
    rw [List.take_succ_cons, ← split, upTo, List.take_left]
  rw [passedThen, List.length_take] at noLane
  have some_of : (a.upTo t).returnedAt.length ≤ a.returnedAt.length := by
    rw [← split, List.length_append]
    exact Nat.le_add_right _ _
  have returned := kept.returned.length_eq
  rw [List.length_take] at returned
  omega

end Merge.Account

namespace Merge

/-- When a merge has nothing more to deliver, all dumps have been run to their ends that were opened
after it had last been cleared. -/
theorem Ledger.isFinished {h : Course} {n : ℕ} {c : Criteria} {books : List Account} {a : Account}
    (ledger : Ledger h n (h.state n) books) (nothing : ((h.state n).next c).1 = .ok none)
    (ha : a ∈ books) (isOpen : a.isOpen h n) : a.IsFinished h n := by
  obtain ⟨noLanes, -⟩ := isEmpty_iff.mp (next_eq_none_iff.mp nothing)
  have lanes := ledger.present.lanes
  rw [noLanes, List.nil_perm, List.filterMap_eq_nil_iff] at lanes
  exact ⟨n, le_rfl, isOpen, lanes a ha⟩

/-- **Positions.** Whatever calls are made, in any order and with any criteria, there is an account
of each chunk that has been opened, and the accounts form a ledger. The records that were returned
of a chunk which has been run to its end are those that have passed, and their positions are the
ones that belong to their number: a single record is the last one; of several the first is the
first, the last is the last, and those between are in the middle. When nothing more comes, all
chunks have been run to their ends that were opened after the last clearing. -/
theorem delivers_in_series (h : Course) (n : ℕ) : ∃ books : List Account,
    books.map (fun a => (a.openedAt, a.chunk, a.contents)) = h.openings n ∧
    Ledger h n (h.state n) books ∧
    (∀ c, ((h.state n).next c).1 = .ok none → ∀ a ∈ books, a.isOpen h n → a.IsFinished h n) ∧
    ∀ a ∈ books, a.IsFinished h n → ∃ records : List Record,
      a.returnedAt.map h.answer = records.map (fun r => some (.ok (some r))) ∧
      records.length = (a.passed h.criteria).length ∧
      records.map Record.position = Position.series records.length ∧
      (records ≠ [] → ∃ front, records.map Record.position = front ++ [.last] ∧ .last ∉ front) := by
  obtain ⟨books, openings, ledger⟩ := h.exists_ledger n
  refine ⟨books, openings, ledger, fun c nothing a ha => ledger.isFinished nothing ha,
    fun a ha finished => ?_⟩
  have answers := (ledger.kept a ha).answers_eq
  rw [(ledger.kept a ha).length_returnedAt finished,
    List.take_of_length_le (Chunk.length_deliver _ _ _).le] at answers
  have length := a.chunk.length_deliver 0 (a.passed h.criteria)
  have positions := a.chunk.map_position_deliver (a.passed h.criteria)
  refine ⟨_, answers, length, by rw [positions, length], fun some_record => ?_⟩
  obtain ⟨k, hk⟩ := Nat.exists_eq_succ_of_ne_zero (mt List.length_eq_zero_iff.mp some_record)
  obtain ⟨front, shape, others⟩ := Position.series_succ k
  exact ⟨front, by rw [positions, ← length, hk, shape], others⟩

/-- Two dumps are opened, of which the first breaks behind its second record. The second call for a
record lets no record pass, the others let all pass. -/
def seriesCourse : Course where
  opener := Opener.sample
  calls t :=
    if t = 0 then .add {} (Chunk.samples.take 3)
    else if t = 2 then .next { interval? := some ⟨5, none⟩ }
    else .next {}

/-- The dump that breaks has a first record and a last one. The other dump has two records as well,
but the call that delivers the first of them rejects the second, so there is only a last one. -/
theorem delivers_in_series_sample :
    ((List.range 6).filterMap fun t => (seriesCourse.answer t).bind fun answer =>
        answer.toOption.join.map fun r => (r.locator, r.position)) =
      [("torn", .first), ("wide", .last), ("torn", .last)] ∧
    ∃ books : List Account, books.map (fun a => a.chunk.locator) = ["wide", "torn"] ∧
      ∀ a ∈ books, a.IsFinished seriesCourse 6 ∧ ∃ records : List Record,
        a.returnedAt.map seriesCourse.answer = records.map (fun r => some (.ok (some r))) ∧
        records.map Record.position = Position.series records.length := by
  obtain ⟨books, openings, ledger, ends, series⟩ := delivers_in_series seriesCourse 6
  refine ⟨by decide +kernel, books, ?_, fun a ha => ?_⟩
  · have locators := congrArg (List.map fun opening => opening.2.1.locator) openings
    rwa [List.map_map] at locators
  · have calm : ∀ s < 6, (seriesCourse.calls s).isClear = false := by decide
    have nothing : ((seriesCourse.state 6).next {}).1 = .ok none :=
      next_eq_none_iff.mpr (by decide +kernel)
    have finished := ends {} nothing a ha ⟨(ledger.kept a ha).openedAt_lt, fun s hs _ => calm s hs⟩
    obtain ⟨records, answers, -, positions, -⟩ := series a ha finished
    exact ⟨finished, records, answers, positions⟩

end Merge

end RouteFeed
