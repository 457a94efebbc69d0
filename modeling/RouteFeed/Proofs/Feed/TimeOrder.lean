import RouteFeed.Proofs.Catalogue.Steady
import RouteFeed.Proofs.Discovery.Admission
import RouteFeed.Proofs.Feed.Delivery
import RouteFeed.Proofs.Feed.Timely

/-!
# The order of times

A feed in batch mode asks a catalogue that does not change for chunks. If it fails, it fails again
and again. If it lists chunks, it lists all of them at once and in the order of their times; they
are read through, and the end is reached. So if every chunk keeps to its time, all records that the
feed ever returns are in the order of their times.

## Main definitions

* `recordsIn` — the records among what questions return
* `Feed.Fails` — a feed that has nothing left and whose catalogue fails

## Main results

* `Feed.Asks.pairwise_time_of_run` — reading through a catalogue that does not change
* `Feed.pairwise_time` — reading through a table or a database
-/

namespace RouteFeed

/-- The records among what questions return. -/
def recordsIn (results : List (Except FeedError (Option Record))) : List Record :=
  results.filterMap fun result =>
    match result with
    | .ok r? => r?
    | .error _ => none

section Records

variable {results results' : List (Except FeedError (Option Record))}

theorem recordsIn_append (results results' : List (Except FeedError (Option Record))) :
    recordsIn (results ++ results') = recordsIn results ++ recordsIn results' :=
  List.filterMap_append

theorem recordsIn_of_end (nothing : ∀ result ∈ results, result = .ok none) :
    recordsIn results = [] := by
  rw [recordsIn, List.filterMap_eq_nil_iff]
  intro result hresult
  rw [nothing result hresult]

theorem recordsIn_of_error {e : FeedError} (failed : ∀ result ∈ results, result = .error e) :
    recordsIn results = [] := by
  rw [recordsIn, List.filterMap_eq_nil_iff]
  intro result hresult
  rw [failed result hresult]

@[simp] theorem recordsIn_singleton_end : recordsIn [.ok none] = [] := rfl

/-- What is delivered before the end has the same records as what is returned. -/
theorem recordsIn_map_some (results : List (Except FeedError Record)) :
    recordsIn (results.map (Except.map some) ++ [.ok none]) = recordsOf results := by
  rw [recordsIn_append, recordsIn_singleton_end, List.append_nil]
  induction results with
  | nil => rfl
  | cons result results ih =>
    cases result with
    | ok r => exact congrArg (r :: ·) ih
    | error e => exact ih

end Records

namespace Feed

variable {κ : Type} [Catalogue κ] {f g h : Feed κ} {k : κ} {e : FeedError} {answer : Answer}
  {whole results : List (Except FeedError (Option Record))}

/-! ## A catalogue that fails -/

/-- A feed that has nothing left to deliver and whose catalogue fails, without being changed. -/
structure Fails (f : Feed κ) (k : κ) (e : FeedError) : Prop extends f.Asks k where
  /-- No dump is open. -/
  idle : f.merge.isEmpty
  /-- No chunk waits. -/
  nothing : f.backlog = []
  /-- The question that comes next fails. -/
  failed : Catalogue.query k f.criteria f.discovery.cursor = (.error e, k)

namespace Fails

/-- The failure is returned, and the next question fails again. -/
theorem exists_returns (fails : f.Fails k e) : ∃ g, f.Returns (.error e) g ∧ g.Fails k e := by
  obtain ⟨g, discovered, asks, criteria, merge, backlog, cursor, -⟩ :=
    fails.discover_of_failure fails.failed
  refine ⟨g, .of_step ((fails.step_of_nothing fails.idle fails.nothing).trans discovered), asks,
    ?_, ?_, ?_⟩
  · rw [merge]
    exact fails.idle
  · rw [backlog]
    exact fails.nothing
  · rw [criteria, cursor]
    exact fails.failed

/-- Nothing else is returned any more. -/
theorem of_run (fails : f.Fails k e) (run : f.Run results g) :
    (∀ result ∈ results, result = .error e) ∧ g.Fails k e := by
  induction run with
  | nil => exact ⟨by simp, fails⟩
  | cons first others ih =>
    obtain ⟨g', returned, fails'⟩ := fails.exists_returns
    obtain ⟨rfl, rfl⟩ := returned.unique first
    obtain ⟨same, fails''⟩ := ih fails'
    exact ⟨List.forall_mem_cons.mpr ⟨rfl, same⟩, fails''⟩

end Fails

theorem Asks.fails_of_error (asks : f.Asks k) (steady : Catalogue.Steady k) (idle : f.merge.isEmpty)
    (nothing : f.backlog = []) (cursor : f.discovery.cursor = .start)
    (failed : (Catalogue.query k f.criteria .start).1 = .error e) : f.Fails k e := by
  refine ⟨asks, idle, nothing, ?_⟩
  rw [cursor]
  exact Prod.ext failed (steady.unchanged f.criteria .start)

/-! ## A catalogue that answers -/

/-- If a run reaches the end, every further question returns. -/
theorem Run.exists_returns_of_whole (toEnd : f.Run whole g) (running : g.phase = .running)
    (exhausted : g.exhausted) (run : f.Run results h) : ∃ result h', h.Returns result h' := by
  rcases Nat.le_total results.length whole.length with shorter | longer
  · obtain ⟨more, rfl, rest⟩ := run.prefix_of_length_le toEnd shorter
    cases rest with
    | nil => exact ⟨_, _, returns_of_exhausted running exhausted⟩
    | cons first others => exact ⟨_, _, first⟩
  · obtain ⟨more, rfl, rest⟩ := toEnd.prefix_of_length_le run longer
    obtain ⟨-, rfl⟩ := rest.of_exhausted running exhausted
    exact ⟨_, _, returns_of_exhausted running exhausted⟩

/-- If a run reaches the end, and its records are in the order of times, then so are those of every
run. -/
theorem Run.pairwise_of_whole (toEnd : f.Run whole g) (running : g.phase = .running)
    (exhausted : g.exhausted)
    (ordered : (recordsIn whole).Pairwise fun r s => r.time.le s.time)
    (run : f.Run results h) : (recordsIn results).Pairwise fun r s => r.time.le s.time := by
  rcases Nat.le_total results.length whole.length with shorter | longer
  · obtain ⟨more, rfl, rest⟩ := run.prefix_of_length_le toEnd shorter
    rw [recordsIn_append] at ordered
    exact (List.pairwise_append.mp ordered).1
  · obtain ⟨more, rfl, rest⟩ := toEnd.prefix_of_length_le run longer
    obtain ⟨nothing, -⟩ := rest.of_exhausted running exhausted
    rwa [recordsIn_append, recordsIn_of_end nothing, List.append_nil]

namespace Asks

/-- A feed without open dumps and chunks that wait reads through what a catalogue that does not
change lists, and comes to its end. -/
theorem exists_toEnd (asks : f.Asks k) (steady : Catalogue.Steady k) (idle : f.merge.isEmpty)
    (nothing : f.backlog = []) (cursor : f.discovery.cursor = .start)
    (answered : (Catalogue.query k f.criteria .start).1 = .ok answer) :
    ∃ results g, f.Run (results.map (Except.map some) ++ [.ok none]) g ∧ g.phase = .running ∧
      g.exhausted ∧ ∃ empty : Merge, empty.isEmpty ∧ empty.opener = f.merge.opener ∧
        Unloads f.criteria empty
          (f.discovery.admission.offerAll f.criteria.ribPeriod? answer.chunks).1 results := by
  have query : ∀ cursor answer, (Catalogue.query k f.criteria cursor).1 = .ok answer →
      Catalogue.query k f.criteria cursor = (.ok answer, k) :=
    fun cursor answer answered => Prod.ext answered (steady.unchanged f.criteria cursor)
  -- if no chunk is admitted the end is reached at once
  by_cases admitted :
    (f.discovery.admission.offerAll f.criteria.ribPeriod? answer.chunks).1 = []
  · obtain ⟨g, discovered, running, exhausted⟩ :=
      asks.discover_of_nothing (by rw [cursor]; exact query _ _ answered) admitted
    have last := (asks.step_of_nothing idle nothing).trans discovered
    have unloads := Unloads.last (c := f.criteria) f.merge
    rw [Merge.drain_of_isEmpty idle, ← admitted] at unloads
    exact ⟨[], g, .cons (.of_step last) (.nil g), running, exhausted, f.merge, idle, rfl, unloads⟩
  · have picked := Admission.offerAll_sublist f.criteria.ribPeriod? answer.chunks
      f.discovery.admission
    have some_chunk : answer.chunks ≠ [] := by
      intro none_listed
      rw [none_listed] at picked admitted
      exact admitted (List.sublist_nil.mp picked)
    obtain ⟨next, again⟩ := steady.complete f.criteria answer answered some_chunk
    have answers : Answers f.criteria k .start [answer.chunks] :=
      .more (query _ _ answered) (.last (query _ _ again))
    obtain ⟨results, g, run, running, exhausted, delivers⟩ :=
      asks.exists_run rfl cursor answers (by simpa [Admission.admitAll] using admitted)
    -- nothing was left before, so all that is delivered comes from the chunks that are admitted
    rw [Admission.admitAll, Admission.admitAll, nothing] at delivers
    exact ⟨results, g, run, running, exhausted, delivers.exists_unloads idle⟩

/-- A feed without open dumps and chunks that wait returns something for every question, if its
catalogue does not change. -/
theorem exists_returns_of_run (asks : f.Asks k) (steady : Catalogue.Steady k)
    (idle : f.merge.isEmpty) (nothing : f.backlog = []) (cursor : f.discovery.cursor = .start)
    (run : f.Run results h) : ∃ result h', h.Returns result h' := by
  cases answered : (Catalogue.query k f.criteria .start).1 with
  | error e =>
    have fails := asks.fails_of_error steady idle nothing cursor answered
    obtain ⟨h', returned, -⟩ := (fails.of_run run).2.exists_returns
    exact ⟨_, h', returned⟩
  | ok answer =>
    obtain ⟨_, g, toEnd, running, exhausted, -⟩ :=
      asks.exists_toEnd steady idle nothing cursor answered
    exact toEnd.exists_returns_of_whole running exhausted run

/-- A feed without open dumps and chunks that wait returns the records of a catalogue that does not
change in the order of their times, whatever else it returns. -/
theorem pairwise_time_of_run (asks : f.Asks k) (steady : Catalogue.Steady k)
    (idle : f.merge.isEmpty) (nothing : f.backlog = []) (cursor : f.discovery.cursor = .start)
    (keepsTime : ∀ answer, (Catalogue.query k f.criteria .start).1 = .ok answer →
      ∀ chunk ∈ answer.chunks, f.merge.opener.KeepsTime chunk) (run : f.Run results h) :
    ((recordsIn results).Pairwise fun r s => r.time.le s.time) ∧
      ∃ result h', h.Returns result h' := by
  refine ⟨?_, asks.exists_returns_of_run steady idle nothing cursor run⟩
  cases answered : (Catalogue.query k f.criteria .start).1 with
  | error e =>
    have fails := asks.fails_of_error steady idle nothing cursor answered
    rw [recordsIn_of_error (fails.of_run run).1]
    exact .nil
  | ok answer =>
    obtain ⟨_, g, toEnd, running, exhausted, empty, isEmpty, opener, unloads⟩ :=
      asks.exists_toEnd steady idle nothing cursor answered
    have picked := Admission.offerAll_sublist f.criteria.ribPeriod? answer.chunks
      f.discovery.admission
    have timely : Timely f.criteria empty
        (f.discovery.admission.offerAll f.criteria.ribPeriod? answer.chunks).1 := by
      refine .of_isEmpty isEmpty ((steady.sorted _ _ _ answered).sublist picked) ?_
      intro chunk hchunk
      rw [opener]
      exact keepsTime answer answered chunk (picked.subset hchunk)
    refine toEnd.pairwise_of_whole running exhausted ?_ run
    rw [recordsIn_map_some]
    exact (timely.pairwise_of_unloads unloads).1

end Asks

/-- **The order of times.** A feed in batch mode, from its start on, reads from a table or from a
database that nobody changes. If the records of each chunk that is listed are in the order of their
times and in the cover of the chunk, then all records that are returned, whatever is returned
between them, are in the order of their times; and each question returns. -/
theorem pairwise_time {f g h : Feed Source} {k : Source} (fresh : f.Fresh)
    (started : f.start = (.ok (), g)) (batch : g.isLive = false)
    (current : g.discovery.registry.current? = some k)
    (kept : (∃ t, k = .table t) ∨ ∃ d, k = .database d)
    (keepsTime : ∀ answer, (Catalogue.query k g.criteria .start).1 = .ok answer →
      ∀ chunk ∈ answer.chunks, g.merge.opener.KeepsTime chunk) (run : g.Run results h) :
    ((recordsIn results).Pairwise fun r s => r.time.le s.time) ∧
      ∃ result h', h.Returns result h' := by
  obtain ⟨asks, merge, backlog, cursor, -⟩ := fresh.asks_of_start started batch current
  have steady : Catalogue.Steady k := by
    rcases kept with ⟨t, rfl⟩ | ⟨d, rfl⟩
    · exact Source.steady_table t
    · exact Source.steady_database d
  have idle : g.merge.isEmpty := by
    rw [merge]
    exact fresh.idle
  exact asks.pairwise_time_of_run steady idle backlog cursor keepsTime run

/-! ## A feed of a table -/

/-- Two dumps by name. The first one has its last record when the second one begins, and is damaged
behind it. No other dump can be opened. -/
def sampleOpener : Opener := fun chunk =>
  match chunk.locator with
  | "early" => .ok ⟨[⟨.ofInt 0, []⟩, ⟨.ofInt 10, []⟩], some (.corrupted "early" "cut off")⟩
  | "late" => .ok ⟨[⟨.ofInt 10, []⟩, ⟨.ofInt 11, []⟩], none⟩
  | _ => .error (.unopenable chunk.locator "no such file")

/-- The chunks of these dumps. -/
def sampleChunks : List Chunk :=
  [⟨"ris", "rrc00", .update, "early", 0, 10⟩, ⟨"ris", "rrc01", .rib, "late", 10, 0⟩]

/-- A table that describes them. -/
def sampleTable : TableFile :=
  { archive :=
      { files := [("dumps.csv", .bytes ("path,project,collector,type,file_time,time_span,ts\n" ++
          "early,ris,rrc00,update,0,10,1\nlate,ris,rrc01,rib,10,0,2\n").toUTF8.toList)] }
    settings := [⟨"csv-file", "", none, some "dumps.csv", true⟩] }

/-- A feed of the table. -/
def sampleFeed : Feed Source :=
  (ofList [.table sampleTable] sampleOpener).setInterval ⟨0, some 100⟩

theorem query_sampleTable :
    (Catalogue.query (Source.table sampleTable) sampleFeed.criteria .start).1 =
      .ok ⟨sampleChunks, .ofTime 2⟩ := by
  have rows : sampleTable.rows = .ok (sampleChunks.zipWith Row.mk [1, 2]) := by decide +kernel
  change sampleTable.answer sampleFeed.criteria .start = _
  rw [TableFile.answer_eq rows, selectPublished_eq Cursor.time_start, sortChunks,
    List.mergeSort_of_pairwise (by decide +kernel)]
  decide +kernel

/-- The record at the end of the first dump and the one at the start of the second are returned one
after the other, and the damage of the first dump does not keep the second one back. -/
theorem pairwise_time_sampleFeed : ∃ results h,
    sampleFeed.start.2.Run (results.map (Except.map some) ++ [.ok none]) h ∧
      Interleaves (sampleChunks.map (sampleOpener.output sampleFeed.criteria)) results ∧
      (recordsIn (results.map (Except.map some) ++ [.ok none])).Pairwise
        fun r s => r.time.le s.time := by
  have fresh : sampleFeed.Fresh := ⟨rfl, rfl, rfl, rfl, rfl, rfl⟩
  have started : sampleFeed.start = (.ok (), sampleFeed.start.2) := rfl
  have keepsTime : ∀ answer, (Catalogue.query (Source.table sampleTable) sampleFeed.criteria
      .start).1 = .ok answer → ∀ chunk ∈ answer.chunks, sampleOpener.KeepsTime chunk := by
    intro answer answered chunk hchunk
    obtain rfl := Except.ok.inj (answered.symm.trans query_sampleTable)
    rcases List.mem_pair.mp hchunk with rfl | rfl
    · rintro x ⟨⟩
      decide +kernel
    · rintro x ⟨⟩
      decide +kernel
  -- the run that the statement is about
  have steady := Source.steady_table sampleTable
  obtain ⟨next, again⟩ := steady.complete _ _ query_sampleTable (List.cons_ne_nil _ _)
  have answers : Answers sampleFeed.criteria (Source.table sampleTable) .start [sampleChunks] :=
    .more (Prod.ext query_sampleTable (steady.unchanged _ _))
      (.last (Prod.ext again (steady.unchanged _ _)))
  obtain ⟨asks, -, backlog, cursor, admission⟩ := fresh.asks_of_start started rfl rfl
  obtain ⟨results, h, run, -, -, delivers⟩ :=
    asks.exists_run rfl cursor answers (by rw [admission]; decide +kernel)
  have interleaves := delivers.interleaves
  rw [backlog, admission] at interleaves
  exact ⟨results, h, run, interleaves, (pairwise_time fresh started rfl rfl
    (.inl ⟨sampleTable, rfl⟩) keepsTime run).1⟩

end Feed

end RouteFeed
