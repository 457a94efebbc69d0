import RouteFeed.Catalogue.Broker
import RouteFeed.Proofs.Catalogue.Agreement

/-!
# Polling a broker

A broker is asked again and again, each time behind the last answer, while it may fail and list
whatever it likes, in any order and from any time. Each request goes from the latest time that has
been listed to the end of the interval. So the requests move forward only, and they stop for good
when something beyond the end has been listed.

## Main definitions

* `cursorAt`, `answerAt` — questions that are asked behind the last answer, with failures among them
* `Broker.requestAt` — the requests that they lead to
* `Cursor.LeadsTo`, `Cursor.IsBeyond` — cursors by their times
* `Broker.Turn` — all that one question can come to

## Main results

* `Broker.turn` — one question
* `Broker.answer_congr` — the service matters only where it is asked
* `Broker.cursorAt_leadsTo`, `Broker.cursorAt_eq_of_isBeyond` — any number of questions
* `Broker.polls_forward` — requests, cursors and answers
-/

namespace RouteFeed

/-! ## Questions behind the last answer -/

section Questions

variable {κ : Type} [Catalogue κ]

/-- The cursor of a question to a catalogue that is found in one state after another: that of the
last answer so far, and the start as long as there is none. -/
def cursorAt (c : Criteria) (states : ℕ → κ) : ℕ → Cursor
  | 0 => .start
  | k + 1 =>
    match (Catalogue.query (states k) c (cursorAt c states k)).1 with
    | .ok answer => answer.next
    | .error _ => cursorAt c states k

/-- What such a question comes to. -/
def answerAt (c : Criteria) (states : ℕ → κ) (k : ℕ) : Except FeedError Answer :=
  (Catalogue.query (states k) c (cursorAt c states k)).1

variable {c : Criteria} {states : ℕ → κ} {k : ℕ}

theorem cursorAt_succ_of_ok {answer : Answer} (answered : answerAt c states k = .ok answer) :
    cursorAt c states (k + 1) = answer.next := by
  rw [answerAt] at answered
  rw [cursorAt, answered]

theorem cursorAt_succ_of_error {e : FeedError} (failed : answerAt c states k = .error e) :
    cursorAt c states (k + 1) = cursorAt c states k := by
  rw [answerAt] at failed
  rw [cursorAt, failed]

end Questions

/-! ## Times of cursors -/

namespace Cursor

/-- Both cursors stand for times, and the second is not behind the first. -/
def LeadsTo (cursor cursor' : Cursor) : Prop :=
  ∃ before? after?, cursor.time = .ok before? ∧ cursor'.time = .ok after? ∧
    ∀ s ∈ before?, ∃ t ∈ after?, s ≤ t

/-- The cursor stands for a time after a given one. -/
def IsBeyond (cursor : Cursor) (stop : Seconds) : Prop :=
  ∃ t, cursor.time = .ok (some t) ∧ stop < t

variable {cursor cursor' cursor'' : Cursor} {after? : Option Seconds}

theorem LeadsTo.rfl (here : cursor.time = .ok after?) : cursor.LeadsTo cursor :=
  ⟨after?, after?, here, here, fun s hs => ⟨s, hs, Int64.le_refl s⟩⟩

theorem LeadsTo.trans (first : cursor.LeadsTo cursor') (second : cursor'.LeadsTo cursor'') :
    cursor.LeadsTo cursor'' := by
  obtain ⟨before?, between?, here, there, le⟩ := first
  obtain ⟨between?', after?, there', last, le'⟩ := second
  obtain rfl : between? = between?' := Except.ok.inj (there.symm.trans there')
  refine ⟨before?, after?, here, last, fun s hs => ?_⟩
  obtain ⟨t, ht, st⟩ := le s hs
  obtain ⟨u, hu, tu⟩ := le' t ht
  exact ⟨u, hu, Int64.le_trans st tu⟩

/-- Going on to the latest of some times leads forward. -/
theorem LeadsTo.advance (here : cursor.time = .ok after?) (times : List Seconds) :
    cursor.LeadsTo (cursor.advance (latestOf after? times)) := by
  refine ⟨after?, _, here, time_advance here times, fun s hs => ?_⟩
  cases latest : latestOf after? times with
  | none =>
    obtain rfl := latestOf_eq_none latest
    obtain rfl : after? = none := latest
    cases hs
  | some t => exact ⟨t, Option.mem_some_self t, (le_latestOf latest).1 s hs⟩

/-- Going on to the latest of some times leads beyond every end that one of them is beyond. -/
theorem IsBeyond.advance {times : List Seconds} {stop t : Seconds}
    (here : cursor.time = .ok after?) (listed : t ∈ times) (late : stop < t) :
    (cursor.advance (latestOf after? times)).IsBeyond stop := by
  have time := time_advance here times
  cases latest : latestOf after? times with
  | none =>
    rw [latestOf_eq_none latest] at listed
    cases listed
  | some u =>
    rw [latest] at time
    exact ⟨u, time, Int64.lt_of_lt_of_le late ((le_latestOf latest).2 t listed)⟩

end Cursor

namespace Broker

variable {b : Broker} {c : Criteria} {cursor cursor' : Cursor} {start stop : Seconds}
  {after? : Option Seconds} {r : BrokerRequest}

/-! ## One question -/

/-- The request that a question leads to; there is none without an interval, for a cursor that is no
time, and for a window that is empty. -/
def request? (b : Broker) (c : Criteria) (cursor : Cursor) : Option BrokerRequest := do
  let interval ← c.interval?
  let after? ← cursor.time.toOption
  let (start, stop) := b.window interval after?
  if stop < start then none else some (b.request c start stop)

/-- The chunks that items describe, in the order of the list. -/
def listed (items : List BrokerItem) : List Chunk := items.filterMap chunk?

/-- The answer to a question behind a time, if some items have been listed to its request: the chunks
that meet the criteria, sorted, and a cursor that goes on to the latest of all. -/
def answerOf (c : Criteria) (cursor : Cursor) (after? : Option Seconds) (items : List BrokerItem) :
    Answer :=
  ⟨sortChunks ((listed items).filter c.acceptsChunk),
    cursor.advance (latestOf after? ((listed items).map Chunk.fileTime))⟩

/-- A question is answered by what its request brings, and by nothing new without a request. -/
theorem answer_eq {interval : Interval} (bounded : c.interval? = some interval)
    (here : cursor.time = .ok after?) :
    b.answer c cursor =
      match b.request? c cursor with
      | none => .ok ⟨[], cursor⟩
      | some r => (b.items r).map (answerOf c cursor after?) := by
  by_cases passed : (b.window interval after?).2 < (b.window interval after?).1
  · have unasked : b.request? c cursor = none := by
      simp [request?, bounded, here, passed, Except.toOption]
    simp [answer, bounded, here, passed, unasked, bind, Except.bind]
  · have asked : b.request? c cursor =
        some (b.request c (b.window interval after?).1 (b.window interval after?).2) := by
      simp [request?, bounded, here, passed, Except.toOption]
    rw [asked]
    simp only [answer, bounded, here, passed, bind, Except.bind, if_false]
    cases b.items (b.request c (b.window interval after?).1 (b.window interval after?).2) <;> rfl

/-- The service matters only where it is asked. -/
theorem answer_congr (b : Broker) (c : Criteria) (cursor : Cursor) {service : BrokerService}
    (same : ∀ r ∈ b.request? c cursor, service r = b.service r) :
    (Catalogue.query { b with service } c cursor).1 = (Catalogue.query b c cursor).1 := by
  change ({ b with service } : Broker).answer c cursor = b.answer c cursor
  cases bounded : c.interval? with
  | none => simp only [answer, bounded]
  | some interval =>
    cases here : cursor.time with
    | error e => simp only [answer, bounded, here, bind, Except.bind]
    | ok after? =>
      -- which request is made does not hang on the service
      have unread : ({ b with service } : Broker).request? c cursor = b.request? c cursor := rfl
      rw [answer_eq bounded here, answer_eq bounded here, unread]
      cases asked : b.request? c cursor with
      | none => rfl
      | some r => simp only [items, same r asked]

/-- The first second of the window behind a time. -/
def firstSecond (start : Seconds) (after? : Option Seconds) : Seconds :=
  after?.elim start (·.later start)

/-- What a question comes to, for an interval with an end and behind a time: the request, and the
answer. -/
inductive Turn (b : Broker) (c : Criteria) (start stop : Seconds) (cursor : Cursor)
    (after? : Option Seconds) : Option BrokerRequest → Except FeedError Answer → Prop where
  /-- The end of the interval has been passed. Nothing is asked, and nothing changes. -/
  | ended (passed : stop < firstSecond start after?) :
      Turn b c start stop cursor after? none (.ok ⟨[], cursor⟩)
  /-- The request fails. -/
  | failed {e : FeedError} (within : firstSecond start after? ≤ stop)
      (fails : b.items (b.request c (firstSecond start after?) stop) = .error e) :
      Turn b c start stop cursor after? (some (b.request c (firstSecond start after?) stop))
        (.error e)
  /-- Items are listed. -/
  | answered {items : List BrokerItem} (within : firstSecond start after? ≤ stop)
      (lists : b.items (b.request c (firstSecond start after?) stop) = .ok items) :
      Turn b c start stop cursor after? (some (b.request c (firstSecond start after?) stop))
        (.ok (answerOf c cursor after? items))

/-- Every question is one of these turns. -/
theorem turn (b : Broker) (closed : c.interval? = some ⟨start, some stop⟩)
    (here : cursor.time = .ok after?) :
    Turn b c start stop cursor after? (b.request? c cursor) (Catalogue.query b c cursor).1 := by
  have window : b.window ⟨start, some stop⟩ after? = (firstSecond start after?, stop) := rfl
  change Turn b c start stop cursor after? _ (b.answer c cursor)
  rw [answer_eq closed here]
  by_cases passed : stop < firstSecond start after?
  · have unasked : b.request? c cursor = none := by
      simp [request?, closed, here, window, passed, Except.toOption]
    rw [unasked]
    exact .ended passed
  · have asked : b.request? c cursor =
        some (b.request c (firstSecond start after?) stop) := by
      simp [request?, closed, here, window, passed, Except.toOption]
    have within := Int64.not_lt.mp passed
    rw [asked]
    dsimp only
    cases result : b.items (b.request c (firstSecond start after?) stop) with
    | error e => exact .failed within result
    | ok items => exact .answered within result

theorem le_firstSecond (start : Seconds) (after? : Option Seconds) :
    start ≤ firstSecond start after? := by
  cases after? with
  | none => exact Int64.le_refl start
  | some t => exact Seconds.le_later_right t start

theorem firstSecond_le_of_leadsTo {before? : Option Seconds} (leads : cursor.LeadsTo cursor')
    (here : cursor.time = .ok before?) (there : cursor'.time = .ok after?) :
    firstSecond start before? ≤ firstSecond start after? := by
  obtain ⟨s?, t?, here', there', le⟩ := leads
  obtain rfl : before? = s? := Except.ok.inj (here.symm.trans here')
  obtain rfl : after? = t? := Except.ok.inj (there.symm.trans there')
  cases before? with
  | none => exact le_firstSecond start after?
  | some s =>
    -- both windows start at a time that is cut off at the start of the interval
    obtain ⟨t, rfl, st⟩ := le s rfl
    rw [Int64.le_iff_toInt_le] at st ⊢
    simp only [firstSecond, Option.elim_some, Seconds.toInt_later]
    exact max_le_max_right _ st

/-- An item of a known kind covers no negative time. -/
theorem timeSpan_nonneg_of_chunk? {item : BrokerItem} {chunk : Chunk}
    (known : chunk? item = some chunk) : 0 ≤ chunk.timeSpan := by
  obtain ⟨kind, -, rfl⟩ := Option.map_eq_some_iff.mp known
  exact Seconds.le_later_right _ _

namespace Turn

variable {request? : Option BrokerRequest} {outcome : Except FeedError Answer}

/-- A request goes from the latest time so far, or from the start of the interval, to its end. -/
theorem window (turn : Turn b c start stop cursor after? request? outcome)
    (asked : request? = some r) :
    r.start = firstSecond start after? ∧ r.stop = stop ∧ firstSecond start after? ≤ stop := by
  cases turn with
  | ended passed => cases asked
  | failed within fails =>
    cases asked
    exact ⟨rfl, rfl, within⟩
  | answered within lists =>
    cases asked
    exact ⟨rfl, rfl, within⟩

theorem leadsTo {answer : Answer} (here : cursor.time = .ok after?)
    (turn : Turn b c start stop cursor after? request? (.ok answer)) :
    cursor.LeadsTo answer.next := by
  cases turn with
  | ended passed => exact .rfl here
  | answered within lists => exact .advance here _

/-- What is answered meets the criteria, in order. -/
theorem selected {answer : Answer}
    (turn : Turn b c start stop cursor after? request? (.ok answer)) :
    (∀ chunk ∈ answer.chunks, c.acceptsChunk chunk ∧ 0 ≤ chunk.timeSpan) ∧
      answer.chunks.Pairwise fun chunk chunk' => chunk.catalogueKey ≤ chunk'.catalogueKey := by
  cases turn with
  | ended passed => exact ⟨by simp, .nil⟩
  | @answered items within lists =>
    refine ⟨fun chunk here => ?_, (pairwise_sortChunks _).imp Chunk.precedes_iff.mp⟩
    obtain ⟨known, accepted⟩ := List.mem_filter.mp ((perm_sortChunks _).subset here)
    obtain ⟨item, -, described⟩ := List.mem_filterMap.mp known
    exact ⟨accepted, timeSpan_nonneg_of_chunk? described⟩

end Turn

/-! ## Any number of questions -/

/-- The request of one of many questions. -/
def requestAt (c : Criteria) (brokers : ℕ → Broker) (k : ℕ) : Option BrokerRequest :=
  (brokers k).request? c (cursorAt c brokers k)

variable {brokers : ℕ → Broker} {j k m : ℕ}

theorem turnAt (closed : c.interval? = some ⟨start, some stop⟩) (brokers : ℕ → Broker) {k : ℕ}
    (here : (cursorAt c brokers k).time = .ok after?) :
    Turn (brokers k) c start stop (cursorAt c brokers k) after? (requestAt c brokers k)
      (answerAt c brokers k) :=
  (brokers k).turn closed here

theorem cursorAt_leadsTo_succ (closed : c.interval? = some ⟨start, some stop⟩)
    (here : (cursorAt c brokers k).time = .ok after?) :
    (cursorAt c brokers k).LeadsTo (cursorAt c brokers (k + 1)) := by
  have turn := turnAt closed brokers here
  cases result : answerAt c brokers k with
  | error e =>
    rw [cursorAt_succ_of_error result]
    exact .rfl here
  | ok answer =>
    rw [result] at turn
    rw [cursorAt_succ_of_ok result]
    exact turn.leadsTo here

/-- Every cursor stands for a time, or for the start. -/
theorem exists_time_cursorAt (closed : c.interval? = some ⟨start, some stop⟩)
    (brokers : ℕ → Broker) (k : ℕ) : ∃ after?, (cursorAt c brokers k).time = .ok after? := by
  induction k with
  | zero => exact ⟨none, Cursor.time_start⟩
  | succ k ih =>
    obtain ⟨before?, here⟩ := ih
    obtain ⟨-, after?, -, there, -⟩ := cursorAt_leadsTo_succ closed here
    exact ⟨after?, there⟩

theorem cursorAt_leadsTo (closed : c.interval? = some ⟨start, some stop⟩) (brokers : ℕ → Broker)
    (le : j ≤ k) : (cursorAt c brokers j).LeadsTo (cursorAt c brokers k) := by
  induction le with
  | refl =>
    obtain ⟨after?, here⟩ := exists_time_cursorAt closed brokers j
    exact .rfl here
  | @step k _ ih =>
    obtain ⟨after?, here⟩ := exists_time_cursorAt closed brokers k
    exact ih.trans (cursorAt_leadsTo_succ closed here)

/-- Beyond the end nothing is asked, and nothing changes. -/
theorem requestAt_eq_none_of_isBeyond (closed : c.interval? = some ⟨start, some stop⟩)
    (beyond : (cursorAt c brokers k).IsBeyond stop) :
    requestAt c brokers k = none ∧ answerAt c brokers k = .ok ⟨[], cursorAt c brokers k⟩ := by
  obtain ⟨t, here, late⟩ := beyond
  have passed : stop < firstSecond start (some t) :=
    Int64.lt_of_lt_of_le late (Seconds.le_later_left t start)
  have turn := turnAt closed brokers here
  generalize requestAt c brokers k = asked, answerAt c brokers k = result at turn
  cases turn with
  | ended _ => exact ⟨rfl, rfl⟩
  | failed within _ => exact absurd passed (Int64.not_lt.mpr within)
  | answered within _ => exact absurd passed (Int64.not_lt.mpr within)

theorem cursorAt_eq_of_isBeyond (closed : c.interval? = some ⟨start, some stop⟩)
    (beyond : (cursorAt c brokers k).IsBeyond stop) (le : k ≤ m) :
    cursorAt c brokers m = cursorAt c brokers k := by
  induction le with
  | refl => rfl
  | @step m _ ih =>
    -- so far the cursor is the same, and the next question leaves it there
    rw [← ih] at beyond
    rw [cursorAt_succ_of_ok (requestAt_eq_none_of_isBeyond closed beyond).2, ih]

/-- An item that is beyond the end takes the cursor there. -/
theorem isBeyond_of_listed {items : List BrokerItem} {item : BrokerItem} {chunk : Chunk}
    (closed : c.interval? = some ⟨start, some stop⟩) (asked : requestAt c brokers k = some r)
    (lists : (brokers k).service r = some items) (here : item ∈ items)
    (known : chunk? item = some chunk) (late : stop < chunk.fileTime) :
    (cursorAt c brokers (k + 1)).IsBeyond stop := by
  obtain ⟨after?, time⟩ := exists_time_cursorAt closed brokers k
  have turn := turnAt closed brokers time
  rw [asked] at turn
  have lists : (brokers k).items r = .ok items := by rw [Broker.items, lists]
  generalize result : answerAt c brokers k = outcome at turn
  -- a request was made, so the end had not been passed
  cases turn with
  | failed _ fails =>
    rw [fails] at lists
    cases lists
  | @answered items' _ lists' =>
    rw [cursorAt_succ_of_ok result]
    obtain rfl : items' = items := Except.ok.inj (lists'.symm.trans lists)
    have member : chunk ∈ listed items' := List.mem_filterMap.mpr ⟨item, here, known⟩
    exact .advance time (List.mem_map_of_mem member) late

/-- **Polling.** The criteria have an interval with an end, and a broker is asked again and again,
each time behind the last answer, whatever the service says or does not say meanwhile. The service
matters only at the one request of a question. Requests lie in the interval, go up to its end, and
never start earlier than one before. Cursors never go back, and stay where they are when a question
fails. After an item of a known kind that is beyond the end, no request is made any more, and each
question is answered by no chunks and the same cursor. All chunks of an answer meet the criteria,
cover no negative time, and stand in the order of catalogues. -/
theorem polls_forward (closed : c.interval? = some ⟨start, some stop⟩) (brokers : ℕ → Broker) :
    (∀ k service, (∀ r ∈ requestAt c brokers k, service r = (brokers k).service r) →
      (Catalogue.query { brokers k with service } c (cursorAt c brokers k)).1 =
        answerAt c brokers k) ∧
    (∀ k r, requestAt c brokers k = some r → start ≤ r.start ∧ r.start ≤ r.stop ∧ r.stop = stop) ∧
    (∀ j k r r', j ≤ k → requestAt c brokers j = some r → requestAt c brokers k = some r' →
      r.start ≤ r'.start) ∧
    (∀ j k, j ≤ k → (cursorAt c brokers j).LeadsTo (cursorAt c brokers k)) ∧
    (∀ k e, answerAt c brokers k = .error e →
      cursorAt c brokers (k + 1) = cursorAt c brokers k) ∧
    (∀ k r items item chunk, requestAt c brokers k = some r → (brokers k).service r = some items →
      item ∈ items → chunk? item = some chunk → stop < chunk.fileTime →
      ∀ m > k, requestAt c brokers m = none ∧
        answerAt c brokers m = .ok ⟨[], cursorAt c brokers (k + 1)⟩ ∧
        cursorAt c brokers m = cursorAt c brokers (k + 1)) ∧
    ∀ k answer, answerAt c brokers k = .ok answer →
      (∀ chunk ∈ answer.chunks, c.acceptsChunk chunk ∧ 0 ≤ chunk.timeSpan) ∧
      answer.chunks.Pairwise fun chunk chunk' => chunk.catalogueKey ≤ chunk'.catalogueKey := by
  have times := exists_time_cursorAt closed brokers
  refine ⟨fun k service same => answer_congr _ _ _ same, ?_, ?_,
    fun j k le => cursorAt_leadsTo closed brokers le, fun k e => cursorAt_succ_of_error, ?_, ?_⟩
  · intro k r asked
    obtain ⟨after?, here⟩ := times k
    obtain ⟨first, last, within⟩ := (turnAt closed brokers here).window asked
    rw [first, last]
    exact ⟨le_firstSecond start after?, within, rfl⟩
  · intro j k r r' le asked asked'
    obtain ⟨before?, here⟩ := times j
    obtain ⟨after?, there⟩ := times k
    rw [((turnAt closed brokers here).window asked).1,
      ((turnAt closed brokers there).window asked').1]
    exact firstSecond_le_of_leadsTo (cursorAt_leadsTo closed brokers le) here there
  · intro k r items item chunk asked lists here known late m later
    have beyond := isBeyond_of_listed closed asked lists here known late
    have same := cursorAt_eq_of_isBeyond closed beyond later
    rw [← same] at beyond
    obtain ⟨unasked, unchanged⟩ := requestAt_eq_none_of_isBeyond closed beyond
    rw [same] at unchanged
    exact ⟨unasked, unchanged, same⟩
  · intro k answer answered
    obtain ⟨after?, here⟩ := times k
    have turn := turnAt closed brokers here
    rw [answered] at turn
    exact turn.selected

/-! ## A broker that lists out of order -/

/-- Updates of one hour. -/
def hourCriteria : Criteria where
  kinds := [.update]
  interval? := some ⟨1000000000, some 1000003600⟩

/-- An item that is beyond the end of the hour. -/
def lateItem : BrokerItem := ⟨"rrc00", "updates", "c", 1000003601, 1000003900⟩

/-- A service that fails at first, then lists items out of order, some of them unwanted, and then one
beyond the end of the hour. -/
def hourBrokers (k : ℕ) : Broker where
  service _ :=
    match k with
    | 0 => none
    | 1 => some [⟨"rrc00", "updates", "b", 1000002000, 1000001000⟩,
        ⟨"rrc00", "rib", "table", 1000003000, 1000003000⟩,
        ⟨"rrc00", "notes", "none", 1000009000, 1000009000⟩,
        ⟨"rrc00", "updates", "a", 1000001000, 1000001300⟩]
    | _ => some [lateItem]
  now := 0

/-- The table, though unwanted, moves the start of the next request, and the notes do not. The item
beyond the end makes it the last request. -/
theorem polls_forward_hourBrokers :
    hourCriteria.interval? = some ⟨1000000000, some 1000003600⟩ ∧
      [0, 1, 2].map (fun k => (requestAt hourCriteria hourBrokers k).map BrokerRequest.start) =
        [some 1000000000, some 1000000000, some 1000003000] ∧
      [0, 1, 2, 3].map (cursorAt hourCriteria hourBrokers) =
        [.start, .start, .ofText "1000003000", .ofText "1000003601"] ∧
      ∀ k > 2, requestAt hourCriteria hourBrokers k = none ∧
        answerAt hourCriteria hourBrokers k = .ok ⟨[], .ofText "1000003601"⟩ := by
  have closed : hourCriteria.interval? = some ⟨1000000000, some 1000003600⟩ := rfl
  obtain ⟨-, -, -, -, -, ends, -⟩ := polls_forward closed hourBrokers
  refine ⟨closed, by decide +kernel, by decide +kernel, fun k later => ?_⟩
  have last : cursorAt hourCriteria hourBrokers 3 = .ofText "1000003601" := by decide +kernel
  have request : requestAt hourCriteria hourBrokers 2 =
      some ((hourBrokers 2).request hourCriteria 1000003000 1000003600) := by decide +kernel
  have lists : (hourBrokers 2).service
      ((hourBrokers 2).request hourCriteria 1000003000 1000003600) = some [lateItem] := rfl
  have known : chunk? lateItem =
      some ⟨"ris", "rrc00", .update, "c", 1000003601, 299⟩ := by decide +kernel
  obtain ⟨unasked, unchanged, -⟩ :=
    ends 2 _ _ _ _ request lists List.mem_cons_self known (by decide) k later
  rw [last] at unchanged
  exact ⟨unasked, unchanged⟩

end Broker

end RouteFeed
