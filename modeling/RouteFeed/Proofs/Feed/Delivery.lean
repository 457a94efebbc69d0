import RouteFeed.Catalogue.Replay
import RouteFeed.Proofs.Feed.Asking

/-!
# Everything once

A catalogue answers some questions with chunks, of which each time at least one is admitted, and
then it lists no more. A feed in batch mode that reads from it delivers, for every chunk that is
admitted, the records of the chunk that the criteria let through, in the order of the chunk, and
behind them the failure if decoding fails; nothing for a chunk that cannot be opened; nothing else;
and after finitely many questions it is at its end.

## Main definitions

* `Answers` — the lists of chunks with which a catalogue answers successive questions
* `Admission.admitAll` — what is admitted of several lists

## Main results

* `Feed.Asks.exists_run` — reading to the end, from any state in which the feed is read
* `Feed.exists_run_interleaves` — reading to the end, from the start
-/

namespace RouteFeed

/-- A catalogue answers successive questions, from a cursor on, with some lists of chunks, and then
with an empty list. -/
inductive Answers {κ : Type} [Catalogue κ] (c : Criteria) :
    κ → Cursor → List (List Chunk) → Prop where
  /-- The catalogue lists nothing. -/
  | last {k k' : κ} {cursor next : Cursor}
      (query : Catalogue.query k c cursor = (.ok ⟨[], next⟩, k')) : Answers c k cursor []
  /-- The catalogue lists chunks, and is asked again behind them. -/
  | more {k k' : κ} {cursor : Cursor} {answer : Answer} {lists : List (List Chunk)}
      (query : Catalogue.query k c cursor = (.ok answer, k'))
      (others : Answers c k' answer.next lists) : Answers c k cursor (answer.chunks :: lists)

/-- What is admitted of several lists of chunks, one after the other. -/
def Admission.admitAll (period? : Option UInt32) : List (List Chunk) → Admission → List (List Chunk)
  | [], _ => []
  | chunks :: lists, a =>
    (offerAll period? chunks a).1 :: admitAll period? lists (offerAll period? chunks a).2

namespace Feed

variable {κ : Type} [Catalogue κ] {f g : Feed κ} {k : κ} {lists : List (List Chunk)}

/-- A feed that is read delivers what its merge holds, and what the chunks that wait and those that
are admitted later have to deliver; then its end is reached. -/
theorem Asks.exists_run {c : Criteria} {cursor : Cursor} (asks : f.Asks k)
    (criteria : f.criteria = c) (here : f.discovery.cursor = cursor)
    (answers : Answers c k cursor lists)
    (productive : ∀ admitted ∈ f.discovery.admission.admitAll c.ribPeriod? lists, admitted ≠ []) :
    ∃ results g, f.Run (results.map (Except.map some) ++ [.ok none]) g ∧
      g.phase = .running ∧ g.exhausted ∧ Delivers c f.merge f.backlog
        (f.discovery.admission.admitAll c.ribPeriod? lists) results := by
  -- by induction on the answers that are still to come; each of them leads to a state like this one
  induction answers generalizing f with
  | @last k k' cursor next query =>
    obtain ⟨results, m, isEmpty, -, steps, unloads⟩ := asks.exists_unloads
    have asks' : Asks { f with merge := m, backlog := [] } k :=
      ⟨⟨asks.running, asks.unfinished⟩, asks.batch, asks.started, asks.current⟩
    rw [← criteria, ← here] at query
    obtain ⟨g, discovered, running, exhausted⟩ := asks'.discover_of_nothing query rfl
    have last := (asks'.step_of_nothing isEmpty rfl).trans discovered
    exact ⟨results, g, steps.trans_run (.cons (.of_step last) (.nil g)) (by simp), running,
      exhausted, .last (criteria ▸ unloads)⟩
  | @more k k' cursor answer lists query others ih =>
    obtain ⟨results, m, isEmpty, opener, steps, unloads⟩ := asks.exists_unloads
    have asks' : Asks { f with merge := m, backlog := [] } k :=
      ⟨⟨asks.running, asks.unfinished⟩, asks.batch, asks.started, asks.current⟩
    rw [← criteria, ← here] at query
    rw [Admission.admitAll, List.forall_mem_cons] at productive
    rw [Admission.admitAll]
    generalize offered : f.discovery.admission.offerAll c.ribPeriod? answer.chunks = admitted
      at productive ⊢
    obtain ⟨g, discovered, asks'', criteria', merge, backlog, cursor', admission⟩ :=
      asks'.discover_of_admitted query productive.1 (by rw [← criteria] at offered; exact offered)
    have first := (asks'.step_of_nothing isEmpty rfl).trans discovered
    -- the step that asks also opens the first batch, so the others start from there
    have asksOn : g.openBatch.Asks k' :=
      ⟨⟨asks''.running, asks''.unfinished⟩, asks''.batch, asks''.started, asks''.current⟩
    have sameCriteria : g.criteria = c := criteria'.trans criteria
    have merge : g.merge = m := merge
    have backlog : g.backlog = admitted.1 := backlog
    rw [← admission] at productive ⊢
    obtain ⟨results', g', run, running, exhausted, delivers⟩ :=
      ih asksOn sameCriteria cursor' productive.2
    refine ⟨results ++ results', g', ?_, running, exhausted,
      .more (criteria ▸ unloads) isEmpty opener (.of_openBatch isEmpty productive.1 ?_)⟩
    · rw [List.map_append, List.append_assoc]
      exact steps.trans_run (run.again first (by simp)) (by simp)
    · -- an empty merge delivers nothing before the batch is opened
      have opened : g.openBatch.merge = g.merge.add c g.backlog.batch := by
        rw [← sameCriteria]
        rfl
      rw [opened] at delivers
      rw [← merge, ← backlog]
      exact delivers

/-- **Everything once.** A feed in batch mode, from its start on, delivers for every chunk that is
admitted just what opening and decoding it brings under the criteria: with the description of the
chunk each of its records that the criteria let through, and then its failure. After finitely many
questions the end of the feed is reached, and nothing is delivered any more. -/
theorem exists_run_interleaves (fresh : f.Fresh) (started : f.start = (.ok (), g))
    (batch : g.isLive = false) (current : g.discovery.registry.current? = some k)
    (answers : Answers g.criteria k .start lists)
    (productive : ∀ admitted ∈ ({} : Admission).admitAll g.criteria.ribPeriod? lists,
      admitted ≠ []) :
    ∃ results h, g.Run (results.map (Except.map some) ++ [.ok none]) h ∧
      Interleaves ((({} : Admission).admitAll g.criteria.ribPeriod? lists).flatten.map
        (g.merge.opener.output g.criteria)) results ∧
      (∀ chunk x, g.merge.opener chunk = .ok x → ∃ records,
        List.Forall₂ (fun d r => r.IsOf chunk d) (x.screened g.criteria) records ∧
        g.merge.opener.output g.criteria chunk =
          records.map .ok ++ (x.failure?.map .error).toList) ∧
      (∀ chunk e, g.merge.opener chunk = .error e →
        g.merge.opener.output g.criteria chunk = []) ∧
      ∀ more h', h.Run more h' → ∀ result ∈ more, result = .ok none := by
  obtain ⟨asks, merge, backlog, cursor, admission⟩ := fresh.asks_of_start started batch current
  obtain ⟨lanes, failures⟩ := Merge.isEmpty_iff.mp fresh.idle
  obtain ⟨results, h, run, running, exhausted, delivers⟩ :=
    asks.exists_run rfl cursor answers (by rwa [admission])
  refine ⟨results, h, run, ?_, fun chunk x => Opener.exists_output g.criteria,
    fun chunk e failed => by rw [Opener.output, failed],
    fun more h' onward => (onward.of_exhausted running exhausted).1⟩
  have interleaves := delivers.interleaves
  rw [backlog, admission, merge] at interleaves
  simpa [Merge.outputs, lanes, failures, merge] using interleaves

/-- A catalogue that lists dumps in two answers, one of them twice. -/
def sampleCatalogue : Replay :=
  { name := "replay"
    description := ""
    settings := []
    script := [.chunks (Chunk.samples.take 3) (some (.ofText "first")),
      .chunks (Chunk.samples.drop 2) (some (.ofText "second"))]
    patience := 1
    starts := [] }

/-- A feed of this catalogue. -/
def sample : Feed Replay :=
  (ofList [sampleCatalogue] Opener.sample).setInterval ⟨0, some 10⟩

/-- The value that is not a number is not in the interval, the chunk that is listed again is not
admitted again, and the torn dump has its failure behind its records. -/
theorem exists_run_sample : ∃ outputs results h,
    sample.start.2.Run (results.map (Except.map some) ++ [.ok none]) h ∧
      Interleaves outputs results ∧
      outputs.map (List.map (Except.map fun r => (r.locator, r.time.bits))) =
        [[.ok ("wide", 0x8000000000000000)], [],
          [.ok ("torn", 0x8000000000000000), .ok ("torn", 0), .error (.corrupted "torn" "cut off")],
          [.ok ("late", 0)]] := by
  have fresh : sample.Fresh := ⟨rfl, rfl, rfl, rfl, rfl, rfl⟩
  have started : sample.start = (.ok (), sample.start.2) := rfl
  obtain ⟨results, h, run, interleaves, -⟩ := exists_run_interleaves (k := sampleCatalogue) fresh
    started rfl rfl (.more rfl (.more rfl (.last rfl))) (by decide +kernel)
  exact ⟨_, results, h, run, interleaves, by decide +kernel⟩

end Feed

end RouteFeed
