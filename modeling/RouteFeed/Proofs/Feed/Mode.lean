import Mathlib.Data.List.Induction
import RouteFeed.Proofs.Feed.Delivery
import RouteFeed.Proofs.Feed.Ending
import RouteFeed.Proofs.Feed.SetUp

/-!
# Whether a feed waits

A feed waits for chunks when there are none, that is it is live, if it has been asked to, or if it
has ever been given an interval without an end. Of several intervals the last one is in force; but
an interval that has an end does not undo what one without an end did before. So a feed may be live
though it was never asked to and its interval has an end, and then it never returns its end. This is
the only exception: all other feeds are live just if they were asked to be or the interval in force
has no end, and those that are not come to their end when their catalogue lists no more.

## Main definitions

* `Feed.FollowsTime` — what operations have made of the interval and of the mode

## Main results

* `Feed.followsTime_performAll` — any operations on a new feed
* `Feed.Asks.exists_run_toEnd` — in batch mode a feed comes to its end when the catalogue does
* `Feed.isLive_iff_of_start` — the mode in which a feed is started
-/

namespace RouteFeed.Feed

variable {κ : Type} [Catalogue κ] {f g : Feed κ} {op : Operation κ} {ops : List (Operation κ)}
  {k : κ}

/-! ## While a feed is set up -/

/-- What operations on a new feed have made of the interval and of the mode. -/
structure FollowsTime (ops : List (Operation κ)) (f : Feed κ) : Prop where
  /-- The interval that was set last is in force. -/
  interval : f.criteria.interval? = (ops.filterMap Operation.interval?).getLast?
  /-- The feed is live if some operation has made it so. -/
  live : f.isLive ↔ ∃ op ∈ ops, op.makesLive

namespace FollowsTime

omit [Catalogue κ] in
/-- A feed whose interval has no end is live. -/
theorem isLive_of_criteria (follows : f.FollowsTime ops) (unbounded : f.criteria.isLive) :
    f.isLive := by
  obtain ⟨interval, here, endless⟩ := Criteria.isLive_iff.mp unbounded
  rw [follows.interval] at here
  obtain ⟨op, performed, sets⟩ := List.mem_filterMap.mp (List.mem_of_getLast? here)
  have lives := Operation.makesLive_iff.mpr (.inr ⟨interval, sets, endless⟩)
  exact follows.live.mpr ⟨op, performed, lives⟩

omit [Catalogue κ] in
/-- A feed is live if it has been asked to be, or if it has been given an interval without an
end. -/
theorem isLive_iff (follows : f.FollowsTime ops) : f.isLive ↔ .setLive ∈ ops ∨
    ∃ interval ∈ ops.filterMap Operation.interval?, interval.stop? = none := by
  rw [follows.live]
  constructor
  · rintro ⟨op, performed, lives⟩
    obtain rfl | ⟨interval, sets, endless⟩ := Operation.makesLive_iff.mp lives
    · exact .inl performed
    · exact .inr ⟨interval, List.mem_filterMap.mpr ⟨op, performed, sets⟩, endless⟩
  · rintro (asked | ⟨interval, given, endless⟩)
    · exact ⟨.setLive, asked, rfl⟩
    · obtain ⟨op, performed, sets⟩ := List.mem_filterMap.mp given
      exact ⟨op, performed, Operation.makesLive_iff.mpr (.inr ⟨interval, sets, endless⟩)⟩

/-- What an operation does to the interval and the mode, if the feed may be set up further. -/
theorem time_perform (follows : f.FollowsTime ops) (goesOn : (f.perform op).phase = .allocated) :
    (f.perform op).criteria.interval? = op.interval?.or f.criteria.interval? ∧
      (f.perform op).isLive = (f.isLive || op.makesLive) := by
  have idle : f.isLive = (f.isLive || false) := (Bool.or_false _).symm
  have prepares := prepares_perform goesOn
  generalize f.perform op = g at prepares
  cases prepares with
  | configured setUp => exact ⟨f.criteria.interval?_configured op, rfl⟩
  | openWith | invalid | next => exact ⟨rfl, idle⟩
  | failed valid begun =>
    -- an interval without an end has made the feed live before
    rw [Discovery.readied_eq follows.isLive_of_criteria] at begun
    have kept := f.discovery.live_start
    rw [begun] at kept
    exact ⟨rfl, kept.trans idle⟩

theorem perform (follows : f.FollowsTime ops) (goesOn : (f.perform op).phase = .allocated) :
    (f.perform op).FollowsTime (ops ++ [op]) := by
  obtain ⟨interval, live⟩ := follows.time_perform goesOn
  refine ⟨?_, ?_⟩
  · rw [interval, follows.interval, List.filterMap_append, List.getLast?_append]
    cases sets : op.interval? <;> simp [sets]
  · rw [live, Bool.or_eq_true, follows.live]
    simp [List.mem_append, or_and_right, exists_or]

end FollowsTime

/-- Operations on a new feed, as long as it may be set up. -/
theorem followsTime_performAll (table : List κ) (opener : Opener)
    (allocated : ((ofList table opener).performAll ops).phase = .allocated) :
    ((ofList table opener).performAll ops).FollowsTime ops := by
  induction ops using List.reverseRecOn with
  | nil => exact ⟨rfl, by simp [performAll, isLive, ofList, Discovery.ofList]⟩
  | append_singleton ops op ih =>
    rw [performAll, List.foldl_concat] at allocated ⊢
    exact (ih (allocated_of_perform allocated)).perform allocated

/-- A feed that may be set up is as fresh as it was, whatever has been tried. -/
theorem Fresh.perform (fresh : f.Fresh) (goesOn : (f.perform op).phase = .allocated) :
    (f.perform op).Fresh := by
  have prepares := prepares_perform goesOn
  generalize f.perform op = g at prepares
  cases prepares with
  | configured | openWith => exact { fresh with }
  | invalid | next => exact fresh
  | failed valid begun => exact fresh.of_start_error (Starts.failed fresh.allocated valid begun).eq

theorem fresh_performAll (table : List κ) (opener : Opener)
    (allocated : ((ofList table opener).performAll ops).phase = .allocated) :
    ((ofList table opener).performAll ops).Fresh := by
  induction ops using List.reverseRecOn with
  | nil => exact .ofList table opener
  | append_singleton ops op ih =>
    rw [performAll, List.foldl_concat] at allocated ⊢
    exact (ih (allocated_of_perform allocated)).perform allocated

/-! ## To the end -/

/-- In batch mode a feed comes to its end when its catalogue lists no more, or nothing new. -/
theorem Asks.exists_run_toEnd {c : Criteria} {cursor : Cursor} {lists : List (List Chunk)}
    (asks : f.Asks k) (criteria : f.criteria = c) (here : f.discovery.cursor = cursor)
    (answers : Answers c k cursor lists) :
    ∃ (results : List (Except FeedError Record)) (g : Feed κ),
      f.Run (results.map (Except.map some) ++ [.ok none]) g := by
  -- by induction on the answers that are still to come; all that waits is read through before each
  induction answers generalizing f with
  | @last k k' cursor next query =>
    obtain ⟨results, m, isEmpty, -, steps, -⟩ := asks.exists_unloads
    have asks' : Asks { f with merge := m, backlog := [] } k := { asks with }
    rw [← criteria, ← here] at query
    obtain ⟨g, discovered, -, -⟩ := asks'.discover_of_nothing query rfl
    have last := (asks'.step_of_nothing isEmpty rfl).trans discovered
    exact ⟨results, g, steps.trans_run (.cons (.of_step last) (.nil g)) (by simp)⟩
  | @more k k' cursor answer lists query others ih =>
    obtain ⟨results, m, isEmpty, -, steps, -⟩ := asks.exists_unloads
    have asks' : Asks { f with merge := m, backlog := [] } k := { asks with }
    rw [← criteria, ← here] at query
    by_cases nothing : (f.discovery.admission.offerAll f.criteria.ribPeriod? answer.chunks).1 = []
    · obtain ⟨g, discovered, -, -⟩ := asks'.discover_of_nothing query nothing
      have last := (asks'.step_of_nothing isEmpty rfl).trans discovered
      exact ⟨results, g, steps.trans_run (.cons (.of_step last) (.nil g)) (by simp)⟩
    · obtain ⟨g, discovered, asks'', criteria', -, -, cursor', -⟩ :=
        asks'.discover_of_admitted query nothing rfl
      have first := (asks'.step_of_nothing isEmpty rfl).trans discovered
      have asksOn : g.openBatch.Asks k' := { asks'' with }
      obtain ⟨results', g', run⟩ := ih asksOn (criteria'.trans criteria) cursor'
      refine ⟨results ++ results', g', ?_⟩
      rw [List.map_append, List.append_assoc]
      exact steps.trans_run (run.again first (by simp)) (by simp)

/-- A feed that waits for chunks never returns that it has reached its end. -/
theorem Run.ne_end_of_isLive {results : List (Except FeedError (Option Record))}
    (run : f.Run results g) (unfinished : f.exhausted = false) (live : f.isLive) :
    .ok none ∉ results := by
  induction run with
  | nil => simp
  | cons first _ ih =>
    obtain ⟨other, unfinished', live'⟩ := first.ne_end_of_isLive unfinished live
    rw [List.mem_cons, not_or]
    exact ⟨Ne.symm other, ih unfinished' live'⟩

/-! ## The mode of a feed -/

/-- What a start that succeeds leaves. -/
theorem start_eq_ok (started : f.start = (.ok (), g)) : f.phase = .allocated ∧
    g.criteria = f.criteria ∧ g.exhausted = f.exhausted ∧
      g.isLive = (f.isLive || f.criteria.isLive) := by
  have starts := f.starts_start
  rw [started] at starts
  cases starts with
  | started allocated valid begun =>
    have kept := (f.discovery.readied f.criteria).live_start
    rw [begun] at kept
    exact ⟨allocated, rfl, rfl, kept⟩

/-- **The mode of a feed.** A new feed is set up in any way and started. The interval that was set
last is in force; but the feed is live if it was asked to be or if any of its intervals had no end.
So it is live just if it was asked to be or the interval in force has no end, unless an interval
with an end has replaced one without. If it is live it never returns that it has reached its end; if
it is not it does so when its catalogue lists no more. -/
theorem isLive_iff_of_start {table : List κ} {opener : Opener}
    (performed : (ofList table opener).performAll ops = f) (started : f.start = (.ok (), g)) :
    g.criteria.interval? = (ops.filterMap Operation.interval?).getLast? ∧
      (g.isLive ↔ .setLive ∈ ops ∨
        ∃ interval ∈ ops.filterMap Operation.interval?, interval.stop? = none) ∧
      ((g.isLive ↔ .setLive ∈ ops ∨
          ∃ interval, g.criteria.interval? = some interval ∧ interval.stop? = none) ↔
        .setLive ∈ ops ∨
          (∃ interval, g.criteria.interval? = some interval ∧ interval.stop? = none) ∨
            ∀ interval ∈ ops.filterMap Operation.interval?, interval.stop? ≠ none) ∧
      (g.isLive → ∀ results h, g.Run results h → .ok none ∉ results) ∧
      (g.isLive = false → ∀ k lists, g.discovery.registry.current? = some k →
        Answers g.criteria k .start lists →
          ∃ (results : List (Except FeedError Record)) (h : Feed κ),
            g.Run (results.map (Except.map some) ++ [.ok none]) h) := by
  obtain ⟨allocated, criteria, exhausted, live⟩ := start_eq_ok started
  subst performed
  have follows := followsTime_performAll table opener allocated
  have fresh := fresh_performAll table opener allocated
  generalize (ofList table opener).performAll ops = f at *
  -- the start adds nothing: an interval without an end has made the feed live when it was set
  have kept : g.isLive = f.isLive := by
    rw [live]
    cases unbounded : f.criteria.isLive with
    | false => exact Bool.or_false _
    | true => rw [follows.isLive_of_criteria unbounded, Bool.true_or]
  have inForce : g.criteria.interval? = (ops.filterMap Operation.interval?).getLast? := by
    rw [criteria, follows.interval]
  have mode := follows.isLive_iff
  rw [← kept] at mode
  refine ⟨inForce, mode, ?_, fun lives results h run => ?_, fun batch k lists current answers => ?_⟩
  · rw [mode, inForce]
    generalize ops.filterMap Operation.interval? = intervals
    by_cases asked : .setLive ∈ ops
    · simp [asked]
    by_cases endless : ∃ interval, intervals.getLast? = some interval ∧ interval.stop? = none
    · have given : ∃ interval ∈ intervals, interval.stop? = none := by
        obtain ⟨interval, last, endless⟩ := endless
        exact ⟨interval, List.mem_of_getLast? last, endless⟩
      simp [endless, given]
    · -- then it depends on the intervals that have been replaced
      simp only [asked, endless, false_or, iff_false, not_exists, not_and, ne_eq]
  · exact run.ne_end_of_isLive (exhausted.trans fresh.unfinished) lives
  · obtain ⟨asks, -, -, cursor, -⟩ := fresh.asks_of_start started batch current
    exact asks.exists_run_toEnd rfl cursor answers

/-- A feed whose only interval has an end, and that was not asked to wait, is in batch mode, and
comes to its end when its catalogue has answered twice. -/
theorem isLive_iff_of_start_sample : ∃ g,
    ((ofList [sampleCatalogue] Opener.sample).performAll [.setInterval ⟨0, some 10⟩]).start =
      (.ok (), g) ∧
    g.criteria.interval? = some ⟨0, some 10⟩ ∧ g.isLive = false ∧
    ∃ (results : List (Except FeedError Record)) (h : Feed Replay),
      g.Run (results.map (Except.map some) ++ [.ok none]) h := by
  have performed : (ofList [sampleCatalogue] Opener.sample).performAll [.setInterval ⟨0, some 10⟩] =
    sample := rfl
  obtain ⟨inForce, mode, -, -, ends⟩ := isLive_iff_of_start performed rfl
  have batch := Bool.eq_false_iff.mpr (mode.not.mpr (by simp [Operation.interval?]))
  exact ⟨_, rfl, inForce, batch,
    ends batch sampleCatalogue _ rfl (.more rfl (.more rfl (.last rfl)))⟩

/-- An interval without an end, replaced by one that has an end. -/
def replacingOperations : List (Operation Source) :=
  [.select 3, .set 3 "upd-file" "updates", .setInterval ⟨1000, none⟩,
    .setInterval ⟨1000, some 2000⟩]

/-- The interval in force has an end, and nobody has asked the feed to wait; yet it waits, and never
comes to its end. -/
theorem not_followsInterval_of_replaced : ∃ g,
    (newFeed.performAll replacingOperations).start = (.ok (), g) ∧
    .setLive ∉ replacingOperations ∧ g.criteria.interval? = some ⟨1000, some 2000⟩ ∧ g.isLive ∧
    ∀ results h, g.Run results h → .ok none ∉ results := by
  have lives : (newFeed.performAll replacingOperations).start.2.isLive := by decide +kernel
  refine ⟨_, rfl, by simp [replacingOperations], rfl, lives, fun results h run => ?_⟩
  exact run.ne_end_of_isLive rfl lives

end RouteFeed.Feed
