import RouteFeed.Feed.Reading
import RouteFeed.Proofs.Feed.Ending

/-!
# Ways of reading

The three ways of reading a feed through agree. Up to the end of a feed, or up to a failure that
costs more than one dump, the results are what the feed returns; the records are those among the
results, and the elements are those of these records, one record after the other. A way of reading
that has said that it has ended says so for ever, without asking the feed.

Each of them is told by a function of how many steps, and how many tries, are allowed. What it gives
does not depend on these numbers as long as they are enough, so there is only one list that it reads
through.

## Main definitions

* `ReadsThrough` — all that a way of reading gives, up to its end
* `Settles` — a way of reading gives the same if it is allowed more
* `StaysEnded` — a way of reading says for ever that it has ended, once it has said so
* `Reading.isFinal` — results after which a feed is not asked any more

## Main results

* `ReadsThrough.iff` — only one list is read through
* `Reading.readsThrough_results` — the results, by what the feed returns
* `Reading.readsThrough_records` — the records, by the results
* `ElementReading.readsThrough` — the elements, by the records
* `Feed.readings_agree` — all three of them
-/

namespace RouteFeed

/-! ## Reading anything through -/

section ReadsThrough

variable {σ α : Type} {ask : ℕ → ℕ → σ → Outcome α × σ} {r r' s s' : σ} {xs ys : List α}
  {outcome outcome' : Outcome α} {steps steps' tries tries' : ℕ}

/-- A way of reading that is asked again and again gives some things, one after the other, and then
says that it has ended. Each time it is allowed enough. -/
inductive ReadsThrough (ask : ℕ → ℕ → σ → Outcome α × σ) : σ → List α → σ → Prop where
  /-- It has ended. -/
  | ended {r r' : σ} (steps tries : ℕ) (last : ask steps tries r = (.ended, r')) :
      ReadsThrough ask r [] r'
  /-- It gives something, and is asked again. -/
  | item {r r' s : σ} {x : α} {xs : List α} (steps tries : ℕ)
      (first : ask steps tries r = (.item x, r')) (others : ReadsThrough ask r' xs s) :
      ReadsThrough ask r (x :: xs) s

/-- A way of reading gives the same if it is allowed more than it needs. -/
def Settles (ask : ℕ → ℕ → σ → Outcome α × σ) : Prop :=
  ∀ ⦃steps steps' tries tries' : ℕ⦄ ⦃r : σ⦄, steps ≤ steps' → tries ≤ tries' →
    (ask steps tries r).1 ≠ .unsettled → ask steps' tries' r = ask steps tries r

theorem Settles.of_le (settles : Settles ask) (first : ask steps tries r = (outcome, r'))
    (settled : outcome ≠ .unsettled) (le : steps ≤ steps') (le' : tries ≤ tries') :
    ask steps' tries' r = (outcome, r') := by
  rw [← first]
  refine settles le le' ?_
  rwa [first]

theorem Settles.unique (settles : Settles ask) (first : ask steps tries r = (outcome, s))
    (second : ask steps' tries' r = (outcome', s')) (settled : outcome ≠ .unsettled)
    (settled' : outcome' ≠ .unsettled) : outcome = outcome' ∧ s = s' := by
  have more := settles.of_le first settled (Nat.le_max_left _ steps') (Nat.le_max_left _ tries')
  have more' := settles.of_le second settled' (Nat.le_max_right steps _) (Nat.le_max_right tries _)
  exact Prod.mk.inj (more.symm.trans more')

theorem ReadsThrough.unique (settles : Settles ask) (reads : ReadsThrough ask r xs s)
    (reads' : ReadsThrough ask r ys s') : xs = ys ∧ s = s' := by
  induction reads generalizing ys with
  | ended _ _ last =>
    cases reads' with
    | ended _ _ last' => exact ⟨rfl, (settles.unique last last' nofun nofun).2⟩
    | item _ _ first' _ => exact nomatch (settles.unique last first' nofun nofun).1
  | item _ _ first _ ih =>
    cases reads' with
    | ended _ _ last' => exact nomatch (settles.unique first last' nofun nofun).1
    | item _ _ first' others' =>
      obtain ⟨same, rfl⟩ := settles.unique first first' nofun nofun
      obtain ⟨rfl, rfl⟩ := ih others'
      exact ⟨congrArg (· :: _) (Outcome.item.inj same), rfl⟩

/-- Only one list is read through, and only one state is left then. -/
theorem ReadsThrough.iff (settles : Settles ask) (reads : ReadsThrough ask r xs s) (ys : List α)
    (s' : σ) : ReadsThrough ask r ys s' ↔ ys = xs ∧ s' = s := by
  constructor
  · intro reads'
    obtain ⟨rfl, rfl⟩ := reads.unique settles reads'
    exact ⟨rfl, rfl⟩
  · rintro ⟨rfl, rfl⟩
    exact reads

/-- Nothing is given on the way from a state to another one in which the same is answered. -/
theorem ReadsThrough.of_answers (reads : ReadsThrough ask r' xs s)
    (answers : ∀ ⦃steps tries outcome t⦄, ask steps tries r' = (outcome, t) →
      outcome ≠ .unsettled → ∃ steps' tries', ask steps' tries' r = (outcome, t)) :
    ReadsThrough ask r xs s := by
  cases reads with
  | ended _ _ last =>
    obtain ⟨steps, tries, last'⟩ := answers last nofun
    exact .ended steps tries last'
  | item _ _ first others =>
    obtain ⟨steps, tries, first'⟩ := answers first nofun
    exact .item steps tries first' others

end ReadsThrough

/-- Once a way of reading has said that it has ended it says so for ever and leaves its state as it
is. It does so whatever feed is put into that state, and also if it is allowed no step at all: it
does not ask the feed. -/
def StaysEnded {κ σ α : Type} (ask : ℕ → ℕ → σ → Outcome α × σ) (withFeed : Feed κ → σ → σ) :
    Prop :=
  ∀ (r r' : σ) (steps tries : ℕ), ask steps tries r = (.ended, r') →
    ∀ (f : Feed κ) (steps' tries' : ℕ),
      ask steps' (tries' + 1) (withFeed f r') = (.ended, withFeed f r')

variable {κ : Type} [Catalogue κ] {f g : Feed κ} {steps steps' tries tries' : ℕ}

/-- A question that returns something returns it also if more steps are allowed. -/
theorem Feed.next_of_le (le : steps ≤ steps') (returned : (f.next steps).1 ≠ none) :
    f.next steps' = f.next steps := by
  induction steps generalizing f steps' with
  | zero => exact absurd rfl returned
  | succ steps ih =>
    obtain ⟨more, rfl⟩ := Nat.exists_eq_add_of_le' le
    rw [← Nat.add_assoc, next, next] at *
    cases first : f.step with
    | mk outcome g =>
      rw [first] at returned
      cases outcome with
      | delivered result => rfl
      | again delay? => exact ih (Nat.le_add_left steps more) returned

theorem Feed.next_of_returned {result : Except FeedError (Option Record)}
    (returned : f.next steps = (some result, g)) (le : steps ≤ steps') :
    f.next steps' = (some result, g) := by
  rw [← returned]
  refine next_of_le le ?_
  simp [returned]

namespace Reading

variable {r r' : Reading κ}

/-! ## The end -/

/-- Another feed in the same state of reading. -/
def withFeed (f : Feed κ) (r : Reading κ) : Reading κ := { r with feed := f }

@[simp] theorem nextResult_of_ended (ended : r.ended) : r.nextResult steps = (.ended, r) := by
  simp [nextResult, ended]

@[simp] theorem nextRecord_of_ended (ended : r.ended) : r.nextRecord steps tries = (.ended, r) := by
  cases tries <;> simp [nextRecord, ended]

theorem ended_of_nextResult (said : r.nextResult steps = (.ended, r')) : r'.ended := by
  unfold nextResult at said
  split_ifs at said with ended
  · obtain ⟨-, rfl⟩ := Prod.mk.inj said
    exact ended
  · split at said <;> cases said
    rfl

/-- The next record is the next result that is one. -/
theorem nextRecord_succ : r.nextRecord steps (tries + 1) =
    match r.nextResult steps with
    | (.unsettled, r') => (.unsettled, r')
    | (.ended, r') => (.ended, r')
    | (.item (.ok record), r') => (.item record, r')
    | (.item (.error _), r') => r'.nextRecord steps tries := by
  rw [nextRecord, nextResult]
  split_ifs with ended
  · rfl
  · cases asked : r.feed.next steps with
    | mk result? f =>
      match result? with
      | none | some (.ok none) | some (.ok (some record)) => rfl
      | some (.error e) =>
        -- after a failure that is not soft the reading has ended, as the next try says, too
        cases soft : e.isSoft <;> simp [soft]

theorem ended_of_nextRecord (said : r.nextRecord steps tries = (.ended, r')) : r'.ended := by
  induction tries generalizing r with
  | zero =>
    unfold nextRecord at said
    split_ifs at said with ended
    · obtain ⟨-, rfl⟩ := Prod.mk.inj said
      exact ended
    · cases said
  | succ tries ih =>
    rw [nextRecord_succ] at said
    split at said
    · cases said
    · next asked =>
      cases said
      exact ended_of_nextResult asked
    · cases said
    · exact ih said

theorem staysEnded_nextResult :
    StaysEnded (fun steps _ (r : Reading κ) => r.nextResult steps) withFeed := by
  intro r r' steps tries said f steps' tries'
  have ended : r'.ended := ended_of_nextResult said
  exact nextResult_of_ended ended

theorem staysEnded_nextRecord : StaysEnded (nextRecord (κ := κ)) withFeed := by
  intro r r' steps tries said f steps' tries'
  have ended : r'.ended := ended_of_nextRecord said
  exact nextRecord_of_ended ended

/-! ## More steps -/

theorem settles_nextResult : Settles fun steps _ (r : Reading κ) => r.nextResult steps := by
  intro steps steps' tries tries' r le _ settled
  dsimp only at settled ⊢
  by_cases ended : r.ended
  · rw [nextResult_of_ended ended, nextResult_of_ended ended]
  · cases asked : r.feed.next steps with
    | mk result? f =>
      cases result? with
      | none => simp [nextResult, ended, asked] at settled
      | some result => simp [nextResult, ended, asked, Feed.next_of_returned asked le]

theorem settles_nextRecord : Settles (nextRecord (κ := κ)) := by
  intro steps steps' tries tries' r le le' settled
  induction tries generalizing r tries' with
  | zero =>
    by_cases ended : r.ended
    · rw [nextRecord_of_ended ended, nextRecord_of_ended ended]
    · simp [nextRecord, ended] at settled
  | succ tries ih =>
    obtain ⟨tries', rfl⟩ := Nat.exists_eq_add_one_of_ne_zero (Nat.ne_zero_of_lt le')
    rw [nextRecord_succ] at settled
    rw [nextRecord_succ, nextRecord_succ]
    have same : (r.nextResult steps).1 ≠ .unsettled → r.nextResult steps' = r.nextResult steps :=
      settles_nextResult le (Nat.le_refl 0)
    cases asked : r.nextResult steps with
    | mk outcome r' =>
      rw [asked] at settled same
      match outcome with
      | .unsettled => exact absurd rfl settled
      | .ended | .item (.ok record) => rw [same nofun]
      | .item (.error e) =>
        rw [same nofun]
        exact ih (Nat.le_of_succ_le_succ le') settled

/-! ## What is read through -/

/-- Results after which a feed is not asked any more: the end, and failures that cost more than one
dump. -/
def isFinal : Except FeedError (Option Record) → Bool
  | .ok none => true
  | .ok (some _) => false
  | .error e => !e.isSoft

omit [Catalogue κ] in
/-- A record or a failure is returned, unless it is the end. -/
theorem eq_end_or_exists_map (result : Except FeedError (Option Record)) :
    result = .ok none ∨ ∃ x : Except FeedError Record, result = x.map some := by
  match result with
  | .ok none => exact .inl rfl
  | .ok (some record) => exact .inr ⟨.ok record, rfl⟩
  | .error e => exact .inr ⟨.error e, rfl⟩

theorem nextResult_of_end (returned : f.next steps = (some (.ok none), g)) :
    (⟨f, false⟩ : Reading κ).nextResult steps = (.ended, ⟨g, true⟩) := by
  simp [nextResult, returned]

theorem nextResult_of_returned {x : Except FeedError Record}
    (returned : f.next steps = (some (x.map some), g)) :
    (⟨f, false⟩ : Reading κ).nextResult steps = (.item x, ⟨g, isFinal (x.map some)⟩) := by
  cases x <;> simp [nextResult, returned, Except.map, isFinal]

/-- Up to a final result, what the feed returns is read through. -/
theorem readsThrough_results {front : List (Except FeedError (Option Record))}
    {last : Except FeedError (Option Record)} (run : f.Run (front ++ [last]) g)
    (goesOn : ∀ result ∈ front, ¬ isFinal result) (final : isFinal last) :
    ReadsThrough (fun steps _ (r : Reading κ) => r.nextResult steps) ⟨f, false⟩
      (deliveriesIn (front ++ [last])) ⟨g, true⟩ := by
  induction front generalizing f with
  | nil =>
    cases run with
    | cons first others =>
      cases others
      obtain ⟨steps, returned⟩ := first
      obtain rfl | ⟨x, rfl⟩ := eq_end_or_exists_map last
      · exact .ended steps 0 (nextResult_of_end returned)
      · -- the failure is given first, and only the next answer is that the reading has ended
        have given := nextResult_of_returned returned
        rw [final] at given
        have stays : (⟨g, true⟩ : Reading κ).nextResult 0 = (.ended, ⟨g, true⟩) :=
          nextResult_of_ended rfl
        rw [List.nil_append, deliveriesIn_singleton]
        exact .item steps 0 given (.ended 0 0 stays)
  | cons result front ih =>
    obtain ⟨notFinal, others_go_on⟩ := List.forall_mem_cons.mp goesOn
    cases run with
    | cons first others =>
      obtain ⟨steps, returned⟩ := first
      obtain rfl | ⟨x, rfl⟩ := eq_end_or_exists_map result
      · exact absurd rfl notFinal
      · have given := nextResult_of_returned returned
        rw [Bool.eq_false_of_not_eq_true notFinal] at given
        rw [List.cons_append, ← List.singleton_append, deliveriesIn_append, deliveriesIn_singleton]
        exact .item steps 0 given (ih others others_go_on)

/-- The records are those among the results. -/
theorem readsThrough_records {xs : List (Except FeedError Record)}
    (reads : ReadsThrough (fun steps _ (r : Reading κ) => r.nextResult steps) r xs r') :
    ReadsThrough nextRecord r (recordsOf xs) r' := by
  induction reads with
  | ended steps _ last =>
    refine .ended steps 1 ?_
    rw [nextRecord_succ, last]
  | @item r r' s x xs steps _ first _ ih =>
    cases x with
    | ok record =>
      refine .item steps 1 ?_ ih
      rw [nextRecord_succ, first]
    | error e =>
      -- with one try more the failure is passed over
      refine ih.of_answers fun steps' tries outcome t later settled =>
        ⟨max steps steps', tries + 1, ?_⟩
      have first' : r.nextResult (max steps steps') = (.item (.error e), r') :=
        settles_nextResult.of_le first nofun (Nat.le_max_left _ _) (Nat.le_refl 0)
      rw [nextRecord_succ, first']
      exact settles_nextRecord.of_le later settled (Nat.le_max_right _ _) (Nat.le_refl _)

/-- Results that are not final are no failures that cost more than one dump. -/
theorem isSoft_of_mem_deliveriesIn {results : List (Except FeedError (Option Record))}
    {e : FeedError} (goesOn : ∀ result ∈ results, ¬ isFinal result)
    (he : .error e ∈ deliveriesIn results) : e.isSoft := by
  obtain ⟨result, mem, same⟩ := List.mem_filterMap.mp he
  match result with
  | .error e' =>
    cases same
    simpa [isFinal] using goesOn _ mem

/-- A failure that costs more than one dump is the last result. -/
theorem eq_nil_of_deliveriesIn_eq {front : List (Except FeedError (Option Record))}
    {last : Except FeedError (Option Record)} {before after : List (Except FeedError Record)}
    {e : FeedError} (goesOn : ∀ result ∈ front, ¬ isFinal result)
    (split : deliveriesIn (front ++ [last]) = before ++ .error e :: after) (hard : ¬ e.isSoft) :
    after = [] := by
  have late : .error e ∉ deliveriesIn front := fun he =>
    hard (isSoft_of_mem_deliveriesIn goesOn he)
  rw [deliveriesIn_append] at split
  obtain rfl | ⟨x, rfl⟩ := eq_end_or_exists_map last
  · rw [deliveriesIn_end, List.append_nil] at split
    simp [split] at late
  · rw [deliveriesIn_singleton] at split
    rcases List.eq_nil_or_concat after with nothing | ⟨after', y, rfl⟩
    · exact nothing
    · -- with something behind it the failure would be one of the earlier results
      rw [List.concat_eq_append, ← List.cons_append, ← List.append_assoc] at split
      simp [(List.append_inj' split rfl).1] at late

end Reading

namespace ElementReading

variable {r r' : ElementReading κ}

/-! ## Elements -/

/-- Another feed in the same state of reading. -/
def withFeed (f : Feed κ) (r : ElementReading κ) : ElementReading κ :=
  { r with reading := r.reading.withFeed f }

theorem next_of_ended (ended : r.reading.ended) (empty : r.cache = #[]) :
    r.next steps (tries + 1) = (.ended, r) := by
  obtain ⟨reading, cache⟩ := r
  subst empty
  simp [next, show reading.ended from ended]

theorem ended_of_next (said : r.next steps tries = (.ended, r')) :
    r'.reading.ended ∧ r'.cache = #[] := by
  fun_induction next steps tries r with
  | case1 => cases said
  | case2 => cases said
  | case3 => cases said
  | case4 tries r empty reading asked =>
    cases said
    exact ⟨Reading.ended_of_nextRecord asked, Array.back?_eq_none_iff.mp empty⟩
  | case5 tries r empty record reading asked ih => exact ih said

theorem staysEnded_next : StaysEnded (next (κ := κ)) withFeed := by
  intro r r' steps tries said f steps' tries'
  obtain ⟨ended, empty⟩ := ended_of_next said
  exact next_of_ended ended empty

theorem settles_next : Settles (next (κ := κ)) := by
  intro steps steps' tries tries' r le le' settled
  induction tries generalizing r tries' with
  | zero => exact absurd rfl settled
  | succ tries ih =>
    obtain ⟨tries', rfl⟩ := Nat.exists_eq_add_one_of_ne_zero (Nat.ne_zero_of_lt le')
    rw [next] at settled
    rw [next, next]
    cases cached : r.cache.back? with
    | some e => rfl
    | none =>
      rw [cached] at settled
      cases asked : r.reading.nextRecord steps (tries + 1) with
      | mk outcome reading =>
        rw [asked] at settled
        cases outcome with
        | unsettled => exact absurd rfl settled
        | ended => rw [Reading.settles_nextRecord.of_le asked nofun le le']
        | item record =>
          rw [Reading.settles_nextRecord.of_le asked nofun le le']
          exact ih (Nat.le_of_succ_le_succ le') settled

/-- The cache holds the elements in reverse, and is emptied from its end. -/
theorem next_of_cached (reading : Reading κ) (e : Element) (es : List Element) :
    (⟨reading, (e :: es).toArray.reverse⟩ : ElementReading κ).next steps (tries + 1) =
      (.item e, ⟨reading, es.toArray.reverse⟩) := by
  simp [next]

/-- The elements of the last record come first, in their order. -/
theorem readsThrough_cached {reading : Reading κ} {xs : List Element}
    (reads : ReadsThrough next ⟨reading, #[]⟩ xs r') (es : List Element) :
    ReadsThrough next ⟨reading, es.toArray.reverse⟩ (es ++ xs) r' := by
  induction es with
  | nil => exact reads
  | cons e es ih => exact .item 0 1 (next_of_cached reading e es) ih

/-- The elements are those of the records, one record after the other. -/
theorem readsThrough_elements {s s' : Reading κ} {records : List Record}
    (reads : ReadsThrough Reading.nextRecord s records s') :
    ReadsThrough next ⟨s, #[]⟩ (records.flatMap Record.elements) ⟨s', #[]⟩ := by
  induction reads with
  | ended steps tries last =>
    have last' := Reading.settles_nextRecord.of_le last nofun (Nat.le_refl _) (Nat.le_succ _)
    refine .ended steps (tries + 1) ?_
    simp [next, last']
  | @item s s' t record records steps tries first _ ih =>
    -- a record without elements, too, is passed over with one try more
    refine (readsThrough_cached ih record.elements).of_answers
      fun steps' tries' outcome r later settled =>
        ⟨max steps steps', max tries tries' + 1, ?_⟩
    have first' : s.nextRecord (max steps steps') (max tries tries' + 1) = (.item record, s') :=
      Reading.settles_nextRecord.of_le first nofun (Nat.le_max_left _ _)
        ((Nat.le_max_left _ _).trans (Nat.le_succ _))
    simp only [next, first', Array.back?_empty]
    exact settles_next.of_le later settled (Nat.le_max_right _ _) (Nat.le_max_right _ _)

end ElementReading

namespace Feed

/-! ## All ways of reading -/

/-- What the three ways of reading make of a feed that returns some results up to a final one. -/
structure ReadsAlike (f : Feed κ) (returned : List (Except FeedError (Option Record)))
    (g : Feed κ) : Prop where
  /-- The results are what is returned, without the end. -/
  results (xs : List (Except FeedError Record)) (r : Reading κ) :
    ReadsThrough (fun steps _ (r : Reading κ) => r.nextResult steps) ⟨f, false⟩ xs r ↔
      xs = deliveriesIn returned ∧ r = ⟨g, true⟩
  /-- The records are those among the results. -/
  records (xs : List Record) (r : Reading κ) :
    ReadsThrough Reading.nextRecord ⟨f, false⟩ xs r ↔
      xs = recordsOf (deliveriesIn returned) ∧ r = ⟨g, true⟩
  /-- The elements are those of the records. -/
  elements (xs : List Element) (r : ElementReading κ) :
    ReadsThrough ElementReading.next ⟨⟨f, false⟩, #[]⟩ xs r ↔
      xs = (recordsOf (deliveriesIn returned)).flatMap Record.elements ∧ r = ⟨⟨g, true⟩, #[]⟩
  /-- A failure that costs more than one dump is the last result. -/
  failure (before after : List (Except FeedError Record)) (e : FeedError) :
    deliveriesIn returned = before ++ .error e :: after → ¬ e.isSoft → after = []

/-- **The ways of reading agree.** A feed in any state returns some results up to the end, or up to
a failure that costs more than one dump. Then each way of reading comes to an end, and gives just
one list by then: the results are what the feed returns, with at most one failure that costs more
than one dump, which is the last of them; the records are those among the results; and the elements
are those of these records. Once a way of reading has said that it has ended it says so for ever,
without asking the feed. -/
theorem readings_agree {front : List (Except FeedError (Option Record))}
    {last : Except FeedError (Option Record)} (run : f.Run (front ++ [last]) g)
    (goesOn : ∀ result ∈ front, ¬ Reading.isFinal result) (final : Reading.isFinal last) :
    f.ReadsAlike (front ++ [last]) g ∧
      StaysEnded (fun steps _ (r : Reading κ) => r.nextResult steps) Reading.withFeed ∧
      StaysEnded (Reading.nextRecord (κ := κ)) Reading.withFeed ∧
      StaysEnded (ElementReading.next (κ := κ)) ElementReading.withFeed := by
  have results := Reading.readsThrough_results run goesOn final
  have records := Reading.readsThrough_records results
  have elements := ElementReading.readsThrough_elements records
  refine ⟨?_, Reading.staysEnded_nextResult, Reading.staysEnded_nextRecord,
    ElementReading.staysEnded_next⟩
  exact
    { results := results.iff Reading.settles_nextResult
      records := records.iff Reading.settles_nextRecord
      elements := elements.iff ElementReading.settles_next
      failure := fun _ _ _ => Reading.eq_nil_of_deliveriesIn_eq goesOn }

/-- A chunk with three records, of which the second has no elements; the decoding fails behind
them. -/
def brokenChunk : Chunk := ⟨"ris", "rrc00", .update, "broken", 0, 300⟩

/-- A chunk whose decoding fails at once. -/
def emptyChunk : Chunk := ⟨"ris", "rrc01", .update, "empty", 0, 300⟩

/-- The records of the chunk that has some. -/
def brokenRecords : List Decoded :=
  [⟨⟨1⟩, [{ peer := 1 }, { peer := 2 }]⟩, ⟨⟨2⟩, []⟩, ⟨⟨3⟩, [{ peer := 3 }]⟩]

/-- What opening the chunks leads to. -/
def brokenOpener : Opener := fun chunk =>
  if chunk = brokenChunk then .ok ⟨brokenRecords, some (.corrupted "broken" "cut off")⟩
  else .ok ⟨[], some (.corrupted "empty" "no header")⟩

/-- A feed that has found these chunks, and has no catalogue. -/
def brokenFeed : Feed Source :=
  { ofList [] brokenOpener with phase := .running, backlog := [brokenChunk, emptyChunk] }

/-- What is returned before the feed fails. -/
def brokenFront : List (Except FeedError (Option Record)) :=
  [.error (.corrupted "empty" "no header"),
    .ok (some (brokenRecords[0].ofChunk brokenChunk .first)),
    .ok (some (brokenRecords[1].ofChunk brokenChunk .middle)),
    .ok (some (brokenRecords[2].ofChunk brokenChunk .last)),
    .error (.corrupted "broken" "cut off")]

/-- The results are two failures around three records, and a third failure that is the last. -/
theorem readings_agree_broken :
    (∀ result ∈ brokenFront, ¬ Reading.isFinal result) ∧
    Reading.isFinal (.error Discovery.notStarted) ∧
    ((recordsOf (deliveriesIn (brokenFront ++ [.error Discovery.notStarted]))).flatMap
      Record.elements).map Element.peer = [1, 2, 3] ∧
    ∃ g, brokenFeed.Run (brokenFront ++ [.error Discovery.notStarted]) g ∧
      brokenFeed.ReadsAlike (brokenFront ++ [.error Discovery.notStarted]) g := by
  have goesOn : ∀ result ∈ brokenFront, ¬ Reading.isFinal result := by decide
  have run : ∃ g, brokenFeed.Run (brokenFront ++ [.error Discovery.notStarted]) g := by
    refine ⟨_, .cons (.of_next 2 ?_) <| .cons (.of_next 2 ?_) <| .cons (.of_next 2 ?_) <|
      .cons (.of_next 2 ?_) <| .cons (.of_next 2 ?_) <| .cons (.of_next 2 ?_) (.nil _)⟩ <;>
    decide +kernel
  obtain ⟨g, run⟩ := run
  exact ⟨goesOn, rfl, rfl, g, run, (readings_agree run goesOn rfl).1⟩

end Feed

end RouteFeed
