import RouteFeed.Catalogue.Replay
import RouteFeed.Proofs.Feed.Isolation
import RouteFeed.Proofs.Merge.Numbering

/-!
# Batch by batch

A feed in batch mode opens the next batch when all that the ones before it had to deliver has been
returned, and asks the catalogue when, besides, no batch waits. So what it returns can be told
portion by portion: a batch brings what a new merge delivers of its chunks alone, and a failure of
the catalogue brings itself.

## Main definitions

* `Backlog.batches` — the batches of some chunks
* `Discovery.Finds` — what successive calls for chunks return
* `Opener.portionOutput` — what a batch, or a failure of the catalogue, brings
* `Feed.Account` — what has been found, opened and returned

## Main results

* `Feed.Account.step` — one step
* `Feed.Account.steps` — any number of steps
* `Feed.returns_portions` — a feed returns what its portions bring, one after another
-/

namespace RouteFeed

/-- The batches of some chunks, one after another. -/
def Backlog.batches (b : Backlog) : List (List Chunk) :=
  if _h : b = [] then [] else b.takeBatch.1 :: batches b.takeBatch.2
termination_by b.length
decreasing_by exact Backlog.length_drop_batch_lt _h

theorem Backlog.batches_of_ne_nil {b : Backlog} (waiting : b ≠ []) :
    b.batches = b.takeBatch.1 :: b.takeBatch.2.batches := by
  rw [batches, dif_neg waiting]

@[simp] theorem Backlog.batches_nil : Backlog.batches [] = [] := by simp [batches]

/-- What a new merge delivers of some chunks alone. -/
def Opener.batchOutput (opener : Opener) (c : Criteria) (batch : List Chunk) :
    List (Except FeedError Record) :=
  (({ opener := opener } : Merge).add c batch).drain c

/-- What is read as a whole: a batch of chunks, or a failure of the catalogue. -/
abbrev Portion := Except FeedError (List Chunk)

/-- The portions of what a call for chunks returns. -/
def portionsOf : Except FeedError (List Chunk) → List Portion
  | .error e => [.error e]
  | .ok chunks => (Backlog.batches chunks).map .ok

/-- What a portion brings. -/
def Opener.portionOutput (opener : Opener) (c : Criteria) :
    Portion → List (Except FeedError Record)
  | .error e => [.error e]
  | .ok batch => opener.batchOutput c batch

namespace Discovery

variable {κ : Type} [Catalogue κ] {c : Criteria} {d d₁ d' : Discovery κ}
  {found found' : List (Except FeedError (List Chunk))}

/-- Successive calls for chunks return some results. -/
inductive Finds (c : Criteria) :
    Discovery κ → List (Except FeedError (List Chunk)) → Discovery κ → Prop where
  /-- No call is made. -/
  | nil (d : Discovery κ) : Finds c d [] d
  /-- The first call returns a result, and the others go on from there. -/
  | cons {d d₁ d' : Discovery κ} {result : Except FeedError (List Chunk)}
      {found : List (Except FeedError (List Chunk))} (rounds : ℕ)
      (first : d.fetch c rounds = (some result, d₁)) (others : Finds c d₁ found d') :
      Finds c d (result :: found) d'

theorem Finds.trans (first : d.Finds c found d₁) (second : d₁.Finds c found' d') :
    d.Finds c (found ++ found') d' := by
  induction first with
  | nil => exact second
  | cons rounds first _ ih => exact .cons rounds first (ih second)

theorem Finds.exists_append (calls : d.Finds c (found ++ found') d') :
    ∃ d₁, d.Finds c found d₁ ∧ d₁.Finds c found' d' := by
  induction found generalizing d with
  | nil => exact ⟨d, .nil d, calls⟩
  | cons result found ih =>
    cases calls with
    | cons rounds first others =>
      obtain ⟨d₁, before, after⟩ := ih others
      exact ⟨d₁, .cons rounds first before, after⟩

/-- In batch mode the first round settles the matter. -/
theorem exists_settled (batch : d.live = false) (c : Criteria) :
    ∃ result d', d.round c = (.settled result, d') ∧ d'.live = false := by
  rcases d.round_cases c with ⟨-, round⟩ | ⟨outcome, d', -, hears, ⟨goesOn, -⟩ | ⟨-, round⟩⟩
  · exact ⟨_, d, round, batch⟩
  · exact absurd goesOn.1 (by simp [batch])
  · exact ⟨_, d', round, hears.live.trans batch⟩

/-- A call that the first round settles returns what is found in this round. -/
theorem fetch_of_settled {result : Except FeedError (List Chunk)} {rounds : ℕ}
    (round : d.round c = (.settled result, d')) (some_round : 0 < rounds) :
    d.fetch c rounds = (some result, d') := by
  obtain ⟨rounds, rfl⟩ := Nat.exists_eq_add_of_lt some_round
  simp [fetch, round]

theorem exists_current_of_start (started : d.start = (.ok (), d')) :
    ∃ k, d'.registry.current? = some k := by
  unfold start at started
  cases current : d.registry.current? with
  | none => simp [current] at started
  | some k =>
    rw [current] at started
    cases valid : Catalogue.validate k with
    | error e => simp [valid] at started
    | ok =>
      simp only [valid, Prod.mk.injEq] at started
      obtain ⟨-, rfl⟩ := started
      exact ⟨_, Registry.current?_replaceCurrent (Catalogue.start k).2 current⟩

end Discovery

theorem map_some_ne_end (r : Except FeedError Record) : r.map some ≠ .ok none := by
  cases r <;> simp [Except.map]

theorem eq_of_map_some_eq {r r' : Except FeedError Record} (same : r.map some = r'.map some) :
    r = r' := by
  cases r <;> cases r' <;> simp_all [Except.map]

namespace Feed

variable {κ : Type} [Catalogue κ] {f g h h' : Feed κ} {d : Discovery κ} {outcome : Step}
  {found : List (Except FeedError (List Chunk))} {opened : List Portion}
  {rs rs' : List (Except FeedError Record)}
  {results results' : List (Except FeedError (Option Record))}

/-! ## One step -/

/-- A feed that is read in batch mode. -/
structure ReadsBatches (f : Feed κ) : Prop extends f.IsRead where
  /-- It does not wait for chunks. -/
  batch : f.isLive = false

/-- All that a step of a feed that is read in batch mode can do. -/
inductive Advances (f : Feed κ) : Step × Feed κ → Prop where
  /-- The merge delivers. -/
  | delivers {r : Except FeedError Record} {m : Merge}
      (next : f.merge.next f.criteria = (r.map some, m)) :
      Advances f (.delivered (r.map some), { f with merge := m })
  /-- Nothing is open, and the next batch is opened. -/
  | opens (idle : f.merge.isEmpty) (waiting : f.backlog ≠ []) :
      Advances f (.again none, f.openBatch)
  /-- Nothing is left, and the catalogue fails. -/
  | fails {e : FeedError} {d : Discovery κ} (idle : f.merge.isEmpty) (nothing : f.backlog = [])
      (call : f.discovery.fetch f.criteria 1 = (some (.error e), d)) (batch : d.live = false) :
      Advances f (.delivered (.error e), { f with discovery := d })
  /-- Nothing is left, and the catalogue has no more chunks. -/
  | ends {d : Discovery κ} (idle : f.merge.isEmpty) (nothing : f.backlog = [])
      (call : f.discovery.fetch f.criteria 1 = (some (.ok []), d)) :
      Advances f (.delivered (.ok none), { f with discovery := d, exhausted := true })
  /-- Nothing is left, chunks are found, and their first batch is opened. -/
  | finds {chunks : List Chunk} {d : Discovery κ} (idle : f.merge.isEmpty)
      (nothing : f.backlog = []) (some_chunk : chunks ≠ [])
      (call : f.discovery.fetch f.criteria 1 = (some (.ok chunks), d)) (batch : d.live = false) :
      Advances f (.again none, { f with discovery := d, backlog := chunks }.openBatch)

/-- What a feed that has nothing left does with what a call for chunks returns. -/
def receive (f : Feed κ) (d : Discovery κ) : Except FeedError (List Chunk) → Step × Feed κ
  | .error e => (.delivered (.error e), { f with discovery := d })
  | .ok [] => (.delivered (.ok none), { f with discovery := d, exhausted := true })
  | .ok chunks => (.again none, { f with discovery := d, backlog := chunks }.openBatch)

theorem ReadsBatches.step_of_call {result : Except FeedError (List Chunk)} {rounds : ℕ}
    (reads : f.ReadsBatches) (idle : f.merge.isEmpty) (nothing : f.backlog = [])
    (call : f.discovery.fetch f.criteria rounds = (some result, d)) :
    d.live = false ∧ f.step = f.receive d result := by
  obtain ⟨settled, d', round, batch⟩ := f.discovery.exists_settled reads.batch f.criteria
  have some_round : 0 < rounds := by
    rcases Nat.eq_zero_or_pos rounds with rfl | some_round
    · cases call
    · exact some_round
  rw [Discovery.fetch_of_settled round some_round] at call
  cases call
  refine ⟨batch, ?_⟩
  rw [reads.step_of_nothing idle nothing]
  unfold discover
  rw [round]
  cases result with
  | error e => rfl
  | ok chunks =>
    cases chunks with
    | nil => rfl
    | cons chunk chunks =>
      rw [nothing]
      rfl

theorem ReadsBatches.advances_step (reads : f.ReadsBatches) : f.Advances f.step := by
  by_cases idle : f.merge.isEmpty
  swap
  · obtain ⟨result, m, next, answered⟩ := Merge.exists_next_of_not_isEmpty idle f.criteria
    rw [reads.step_of_next next answered]
    obtain ⟨r, rfl⟩ := exists_eq_map_some answered
    exact .delivers next
  by_cases nothing : f.backlog = []
  swap
  · rw [reads.step_of_backlog idle nothing]
    exact .opens idle nothing
  obtain ⟨result, d, round, -⟩ := f.discovery.exists_settled reads.batch f.criteria
  have call := Discovery.fetch_of_settled round Nat.one_pos
  obtain ⟨batch, step⟩ := reads.step_of_call idle nothing call
  rw [step]
  cases result with
  | error e => exact .fails idle nothing call batch
  | ok chunks =>
    cases chunks with
    | nil => exact .ends idle nothing call
    | cons chunk chunks => exact .finds idle nothing (List.cons_ne_nil _ _) call batch

/-! ## The account of a feed -/

/-- What a feed in batch mode has found, opened and returned since it was in the state `f`. -/
structure Account (f : Feed κ) (found : List (Except FeedError (List Chunk)))
    (opened : List Portion) (rs : List (Except FeedError Record)) (g : Feed κ) : Prop
    extends g.ReadsBatches where
  criteria : g.criteria = f.criteria
  opener : g.merge.opener = f.merge.opener
  calls : f.discovery.Finds f.criteria found g.discovery
  productive : .ok [] ∉ found
  /-- What has been found has been opened, or waits. -/
  waiting : found.flatMap portionsOf = opened ++ g.backlog.batches.map .ok
  /-- What has been opened has been returned, or is held by the merge. -/
  returned : opened.flatMap (f.merge.opener.portionOutput f.criteria) =
    rs ++ g.merge.drain f.criteria

namespace Account

theorem refl (reads : f.ReadsBatches) (idle : f.merge.isEmpty) (nothing : f.backlog = []) :
    f.Account [] [] [] f where
  toReadsBatches := reads
  criteria := rfl
  opener := rfl
  calls := .nil f.discovery
  productive := by simp
  waiting := by simp [nothing]
  returned := by simp [Merge.drain_of_isEmpty idle]

/-- When nothing is open, all that has been opened has been returned. -/
theorem returned_of_idle (account : f.Account found opened rs g) (idle : g.merge.isEmpty) :
    rs = opened.flatMap (f.merge.opener.portionOutput f.criteria) := by
  rw [account.returned, Merge.drain_of_isEmpty idle, List.append_nil]

/-- When nothing waits, all that has been found has been opened. -/
theorem opened_of_nothing (account : f.Account found opened rs g) (nothing : g.backlog = []) :
    opened = found.flatMap portionsOf := by
  rw [account.waiting, nothing]
  simp

theorem openBatch (account : f.Account found opened rs g) (idle : g.merge.isEmpty)
    (waiting : g.backlog ≠ []) :
    f.Account found (opened ++ [.ok g.backlog.takeBatch.1]) rs g.openBatch where
  running := account.running
  unfinished := account.unfinished
  batch := account.batch
  criteria := account.criteria
  opener := by
    rw [← account.opener]
    exact g.merge.opener_add g.criteria g.backlog.takeBatch.1
  calls := account.calls
  productive := account.productive
  waiting := by
    rw [account.waiting, Backlog.batches_of_ne_nil waiting, List.append_assoc]
    rfl
  returned := by
    have fresh := Merge.drain_add_of_isEmpty idle f.criteria g.backlog.takeBatch.1
    rw [account.opener] at fresh
    rw [List.flatMap_append, ← account.returned_of_idle idle]
    change rs ++ _ = rs ++ (g.merge.add g.criteria g.backlog.takeBatch.1).drain f.criteria
    rw [account.criteria, fresh]
    simp [Opener.portionOutput, Opener.batchOutput]

theorem deliver {r : Except FeedError Record} {m : Merge} (account : f.Account found opened rs g)
    (next : g.merge.next g.criteria = (r.map some, m)) :
    f.Account found opened (rs ++ [r]) { g with merge := m } where
  running := account.running
  unfinished := account.unfinished
  batch := account.batch
  criteria := account.criteria
  opener := by
    rw [← account.opener, ← g.merge.opener_next g.criteria, next]
  calls := account.calls
  productive := account.productive
  waiting := account.waiting
  returned := by
    rw [account.criteria] at next
    rw [account.returned, Merge.drain_of_next next, List.append_assoc]
    rfl

theorem fail {e : FeedError} (account : f.Account found opened rs g) (idle : g.merge.isEmpty)
    (nothing : g.backlog = []) (call : g.discovery.fetch g.criteria 1 = (some (.error e), d))
    (batch : d.live = false) :
    f.Account (found ++ [.error e]) (opened ++ [.error e]) (rs ++ [.error e])
      { g with discovery := d } where
  running := account.running
  unfinished := account.unfinished
  batch := batch
  criteria := account.criteria
  opener := account.opener
  calls := account.calls.trans (.cons 1 (account.criteria ▸ call) (.nil d))
  productive := by simpa using account.productive
  waiting := by
    rw [List.flatMap_append, ← account.opened_of_nothing nothing, nothing]
    simp [portionsOf]
  returned := by
    rw [List.flatMap_append, ← account.returned_of_idle idle, Merge.drain_of_isEmpty idle]
    simp [Opener.portionOutput]

theorem find {chunks : List Chunk} (account : f.Account found opened rs g)
    (nothing : g.backlog = []) (some_chunk : chunks ≠ [])
    (call : g.discovery.fetch g.criteria 1 = (some (.ok chunks), d)) (batch : d.live = false) :
    f.Account (found ++ [.ok chunks]) opened rs { g with discovery := d, backlog := chunks } where
  running := account.running
  unfinished := account.unfinished
  batch := batch
  criteria := account.criteria
  opener := account.opener
  calls := account.calls.trans (.cons 1 (account.criteria ▸ call) (.nil d))
  productive := by simpa [some_chunk.symm] using account.productive
  waiting := by
    rw [List.flatMap_append, ← account.opened_of_nothing nothing]
    simp [portionsOf]
  returned := account.returned

/-- One step opens a portion, or returns what one of those that have been opened brings, or reaches
the end. -/
theorem step (account : f.Account found opened rs g) (first : g.step = (outcome, h)) :
    (∃ delay? found' opened', outcome = .again delay? ∧ f.Account found' opened' rs h) ∨
      (∃ r found' opened', outcome = .delivered (r.map some) ∧
        f.Account found' opened' (rs ++ [r]) h) ∨
      (outcome = .delivered (.ok none) ∧
        f.discovery.Finds f.criteria (found ++ [.ok []]) h.discovery ∧
        rs = (found.flatMap portionsOf).flatMap
          (f.merge.opener.portionOutput f.criteria)) := by
  have advances := account.advances_step
  rw [first] at advances
  cases advances with
  | delivers next => exact .inr (.inl ⟨_, _, _, rfl, account.deliver next⟩)
  | opens idle waiting => exact .inl ⟨_, _, _, rfl, account.openBatch idle waiting⟩
  | @fails e _ idle nothing call batch =>
    exact .inr (.inl ⟨.error e, _, _, rfl, account.fail idle nothing call batch⟩)
  | ends idle nothing call =>
    refine .inr (.inr ⟨rfl, ?_, ?_⟩)
    · exact account.calls.trans (.cons 1 (account.criteria ▸ call) (.nil _))
    · rw [← account.opened_of_nothing nothing]
      exact account.returned_of_idle idle
  | finds idle nothing some_chunk call batch =>
    have account' := account.find nothing some_chunk call batch
    exact .inl ⟨_, _, _, rfl, account'.openBatch idle some_chunk⟩

/-- Any number of steps, as long as the end is not reached. -/
theorem steps (account : f.Account found opened rs g) (steps : g.Steps results h)
    (returned : results = rs'.map (Except.map some)) :
    ∃ found' opened', f.Account found' opened' (rs ++ rs') h := by
  -- each step keeps an account of all that has been returned up to then
  induction steps generalizing found opened rs rs' with
  | refl =>
    obtain rfl := List.map_eq_nil_iff.mp returned.symm
    rw [List.append_nil]
    exact ⟨found, opened, account⟩
  | again first _ ih =>
    rcases account.step first with ⟨_, _, _, -, account'⟩ | ⟨_, _, _, mismatch, -⟩ | ⟨mismatch, -⟩
    · exact ih account' returned
    · cases mismatch
    · cases mismatch
  | delivered first _ ih =>
    cases rs' with
    | nil => cases returned
    | cons r rs' =>
      rw [List.map_cons, List.cons.injEq] at returned
      obtain ⟨rfl, returned⟩ := returned
      rcases account.step first with
        ⟨_, _, _, mismatch, -⟩ | ⟨r', _, _, same, account'⟩ | ⟨ended, -⟩
      · cases mismatch
      · obtain rfl := eq_of_map_some_eq (Step.delivered.inj same)
        rw [List.append_cons]
        exact ih account' returned
      · exact absurd (Step.delivered.inj ended) (map_some_ne_end r)

end Account

/-! ## All that is found is returned -/

/-- Steps that deliver something come to a step that delivers it. -/
theorem Steps.exists_delivered {result : Except FeedError (Option Record)}
    (steps : f.Steps (results ++ result :: results') h) :
    ∃ g g', f.Steps results g ∧ g.step = (.delivered result, g') ∧ g'.Steps results' h := by
  generalize all : results ++ result :: results' = whole at steps
  induction steps generalizing results with
  | refl => simp at all
  | again first _ ih =>
    obtain ⟨g, g', before, last, after⟩ := ih all
    exact ⟨g, g', .again first before, last, after⟩
  | @delivered f _ _ _ _ first others ih =>
    cases results with
    | nil =>
      obtain ⟨rfl, rfl⟩ := List.cons.inj all
      exact ⟨f, _, .refl f, first, others⟩
    | cons _ results =>
      rw [List.cons_append, List.cons.injEq] at all
      obtain ⟨rfl, all⟩ := all
      obtain ⟨g, g', before, last, after⟩ := ih all
      exact ⟨g, g', .delivered first before, last, after⟩

theorem eq_of_unloads {c : Criteria} {m : Merge} {b : Backlog} (unloads : Unloads c m b rs) :
    rs = m.drain c ++ b.batches.flatMap (m.opener.batchOutput c) := by
  induction unloads with
  | last => simp
  | @batch m empty b rs waiting isEmpty opener _ ih =>
    rw [ih, Backlog.batches_of_ne_nil waiting, Merge.opener_add, opener, List.flatMap_cons,
      Merge.drain_add_of_isEmpty isEmpty, opener]
    rfl

/-- Two feeds that make the same first step make the same steps. -/
theorem Steps.of_step_eq (same : f.step = g.step) (steps : g.Steps results h) (moved : g ≠ h) :
    f.Steps results h := by
  cases steps with
  | refl => exact absurd rfl moved
  | again first others => exact .again (same.trans first) others
  | delivered first others => exact .delivered (same.trans first) others

/-- A batch that has been found is read through as if it had been waiting. -/
theorem ReadsBatches.exists_unloaded {chunks : List Chunk} (reads : f.ReadsBatches)
    (idle : f.merge.isEmpty) (some_chunk : chunks ≠ [])
    (step : f.step = (.again none, { f with discovery := d, backlog := chunks }.openBatch)) :
    ∃ m : Merge, m.isEmpty ∧ m.opener = f.merge.opener ∧
      f.Steps (((Backlog.batches chunks).flatMap
          (f.merge.opener.batchOutput f.criteria)).map (Except.map some))
        { f with merge := m, backlog := [], discovery := d } := by
  have isRead : IsRead { f with discovery := d, backlog := chunks } :=
    ⟨reads.running, reads.unfinished⟩
  obtain ⟨results, m, isEmpty, opener, steps, unloads⟩ := isRead.exists_unloads
  have whole := eq_of_unloads unloads
  rw [Merge.drain_of_isEmpty idle, List.nil_append] at whole
  rw [whole] at steps
  refine ⟨m, isEmpty, opener, .of_step_eq ?_ steps fun same => ?_⟩
  · rw [step, isRead.step_of_backlog idle some_chunk]
  · exact some_chunk (congrArg Feed.backlog same)

/-- All that is found in a state in which nothing is left is returned, portion by portion. -/
theorem ReadsBatches.exists_steps (reads : f.ReadsBatches) (idle : f.merge.isEmpty)
    (nothing : f.backlog = []) (calls : f.discovery.Finds f.criteria found d)
    (productive : .ok [] ∉ found) :
    ∃ g : Feed κ, g.ReadsBatches ∧ g.merge.isEmpty ∧ g.backlog = [] ∧ g.discovery = d ∧
      g.criteria = f.criteria ∧
      f.Steps (((found.flatMap portionsOf).flatMap
        (f.merge.opener.portionOutput f.criteria)).map (Except.map some)) g := by
  generalize here : f.discovery = d₀ at calls
  generalize same : f.criteria = c at calls ⊢
  -- by induction on the calls; after each of them the feed reads until nothing is left again
  induction calls generalizing f with
  | nil d => exact ⟨f, reads, idle, nothing, here, same, .refl f⟩
  | @cons d₀ d₁ d result found rounds first _ ih =>
    subst here same
    obtain ⟨batch, step⟩ := reads.step_of_call idle nothing first
    rw [List.mem_cons, not_or] at productive
    cases result with
    | error e =>
      obtain ⟨g, reads', idle', nothing', here, same, steps⟩ :=
        ih (f := { f with discovery := d₁ }) ⟨⟨reads.running, reads.unfinished⟩, batch⟩ idle nothing
          productive.2 rfl rfl
      exact ⟨g, reads', idle', nothing', here, same, .delivered step steps⟩
    | ok chunks =>
      cases chunks with
      | nil => exact absurd rfl productive.1
      | cons chunk chunks =>
        obtain ⟨m, isEmpty, opener, unloaded⟩ :=
          reads.exists_unloaded idle (List.cons_ne_nil chunk chunks) step
        obtain ⟨g, reads', idle', nothing', here, same, steps⟩ :=
          ih (f := { f with merge := m, backlog := [], discovery := d₁ })
            ⟨⟨reads.running, reads.unfinished⟩, batch⟩ isEmpty rfl productive.2 rfl rfl
        refine ⟨g, reads', idle', nothing', here, same, ?_⟩
        have all := unloaded.trans steps
        rw [← List.map_append, opener] at all
        simpa [portionsOf, List.flatMap_map, Opener.portionOutput] using all

/-! ## What a step leaves aside -/

/-- The next step opens no chunk: it is the same whatever opening leads to and whatever chunks
wait, and leaves them as they are. -/
def OpensNothing (f : Feed κ) : Prop :=
  ∀ (opener : Opener) (b : Backlog), step { f.withOpener opener with backlog := b } =
    (f.step.1, { f.step.2.withOpener opener with backlog := b })

/-- The next step asks no catalogue: it is the same whatever is known of catalogues, and leaves it
as it is. -/
def AsksNothing (f : Feed κ) : Prop :=
  ∀ d : Discovery κ, step { f with discovery := d } = (f.step.1, { f.step.2 with discovery := d })

theorem IsRead.opensNothing (isRead : f.IsRead) (busy : ¬ f.merge.isEmpty) : f.OpensNothing := by
  intro opener b
  obtain ⟨result, m, next, answered⟩ := Merge.exists_next_of_not_isEmpty busy f.criteria
  have next' : ({ f.merge with opener := opener } : Merge).next f.criteria =
      (result, { m with opener := opener }) := by
    rw [Merge.next_withOpener, next]
  have isRead' : IsRead { f.withOpener opener with backlog := b } :=
    ⟨isRead.running, isRead.unfinished⟩
  rw [isRead.step_of_next next answered, isRead'.step_of_next next' answered]
  rfl

theorem IsRead.asksNothing (isRead : f.IsRead) (left : ¬ f.merge.isEmpty ∨ f.backlog ≠ []) :
    f.AsksNothing := by
  intro d
  have isRead' : IsRead { f with discovery := d } := ⟨isRead.running, isRead.unfinished⟩
  by_cases idle : f.merge.isEmpty
  · have waiting := left.resolve_left (not_not.mpr idle)
    rw [isRead.step_of_backlog idle waiting, isRead'.step_of_backlog idle waiting]
    rfl
  · obtain ⟨result, m, next, answered⟩ := Merge.exists_next_of_not_isEmpty idle f.criteria
    rw [isRead.step_of_next next answered, isRead'.step_of_next next answered]

/-! ## From the start on -/

theorem exists_current_of_start (started : f.start = (.ok (), g)) :
    ∃ k, g.discovery.registry.current? = some k := by
  unfold start at started
  split_ifs at started
  · cases started
  · cases valid : f.criteria.validate with
    | error e => simp [valid] at started
    | ok =>
      cases begun : (f.setLiveIf f.criteria.isLive).discovery.start with
      | mk result d =>
        cases result with
        | error e => simp [valid, begun] at started
        | ok =>
          simp only [valid, begun, Prod.mk.injEq, true_and] at started
          rw [← started]
          exact Discovery.exists_current_of_start begun

/-- Starting a feed in batch mode leads to one that is read and has nothing. -/
theorem Fresh.readsBatches_of_start (fresh : f.Fresh) (started : f.start = (.ok (), g))
    (batch : g.isLive = false) : g.ReadsBatches ∧ g.merge.isEmpty ∧ g.backlog = [] := by
  obtain ⟨k, current⟩ := exists_current_of_start started
  obtain ⟨asks, merge, nothing, -⟩ := fresh.asks_of_start started batch current
  refine ⟨⟨⟨asks.running, asks.unfinished⟩, batch⟩, ?_, nothing⟩
  rw [merge]
  exact fresh.idle

/-- **Batch by batch.** A feed in batch mode is read from its start on. At any moment, what has been
returned and what the merge still holds is what the portions that have been opened bring, one after
another; these portions and the batches that wait are those of the chunks that were found, and of
the failures between them. No chunk is opened before all that the portions before it bring has been
returned, and no catalogue is asked as long as a dump is open or a chunk waits. The feed comes to
its end just if the calls for chunks do, and then it has returned what all portions bring. -/
theorem returns_portions (fresh : f.Fresh) (started : f.start = (.ok (), g))
    (batch : g.isLive = false) :
    (∀ rs h, g.Steps (rs.map (Except.map some)) h → ∃ found opened, g.Account found opened rs h ∧
        (rs ≠ opened.flatMap (g.merge.opener.portionOutput g.criteria) → h.OpensNothing) ∧
        (¬ h.merge.isEmpty ∨ h.backlog ≠ [] → h.AsksNothing)) ∧
      ∀ rs, (∃ h, g.Run (rs.map (Except.map some) ++ [.ok none]) h) ↔
        ∃ found d, g.discovery.Finds g.criteria (found ++ [.ok []]) d ∧ .ok [] ∉ found ∧
          rs = (found.flatMap portionsOf).flatMap (g.merge.opener.portionOutput g.criteria) := by
  obtain ⟨reads, idle, nothing⟩ := fresh.readsBatches_of_start started batch
  have account := Account.refl reads idle nothing
  refine ⟨fun rs h steps => ?_, fun rs => ⟨?_, ?_⟩⟩
  · obtain ⟨found, opened, account⟩ := account.steps steps rfl
    rw [List.nil_append] at account
    refine ⟨found, opened, account, fun left => ?_, account.asksNothing⟩
    exact account.opensNothing fun idle => left (account.returned_of_idle idle)
  · rintro ⟨h, run⟩
    obtain ⟨h₁, h₂, steps, last, -⟩ := run.steps.exists_delivered
    obtain ⟨found, opened, account⟩ := account.steps steps rfl
    rw [List.nil_append] at account
    rcases account.step last with ⟨_, _, _, mismatch, -⟩ | ⟨r, _, _, mismatch, -⟩ | ⟨-, calls, all⟩
    · cases mismatch
    · exact absurd (Step.delivered.inj mismatch).symm (map_some_ne_end r)
    · exact ⟨found, h₂.discovery, calls, account.productive, all⟩
  · rintro ⟨found, d, calls, productive, rfl⟩
    obtain ⟨d₁, before, last⟩ := calls.exists_append
    obtain ⟨h, reads', idle', nothing', rfl, criteria, steps⟩ :=
      reads.exists_steps idle nothing before productive
    rw [← criteria] at last
    cases last with
    | cons rounds call others =>
      obtain ⟨-, step⟩ := reads'.step_of_call idle' nothing' call
      exact ⟨_, steps.trans_run (.cons (.of_step step) (.nil _)) (by simp)⟩

/-- Three chunks with time between them; the second one cannot be opened. -/
def apartChunks : List Chunk :=
  [⟨"ris", "rrc01", .update, "wide", 0, 300⟩, ⟨"ris", "rrc00", .update, "lost", 600, 300⟩,
   ⟨"ris", "rrc00", .update, "torn", 1200, 300⟩]

/-- A catalogue that fails between two answers. -/
def interruptedCatalogue : Replay :=
  { name := "replay"
    description := ""
    settings := []
    script := [.chunks apartChunks (some (.ofText "first")), .failure (.unavailable "down"),
      .chunks [⟨"ris", "rrc00", .update, "late", 0, 300⟩] (some (.ofText "second"))]
    patience := 1
    starts := [] }

/-- A feed of this catalogue. -/
def interrupted : Feed Replay :=
  (ofList [interruptedCatalogue] Opener.sample).setInterval ⟨0, some 10⟩

/-- What the feed returns before its end. -/
def interruptedResults : List (Except FeedError Record) :=
  [.ok (Decoded.ofChunk ⟨⟨0x8000000000000000⟩, []⟩ ⟨"ris", "rrc01", .update, "wide", 0, 300⟩ .last),
    .ok (Decoded.ofChunk ⟨⟨0x8000000000000000⟩, []⟩ ⟨"ris", "rrc00", .update, "torn", 1200, 300⟩
      .first),
    .ok (Decoded.ofChunk ⟨⟨0⟩, []⟩ ⟨"ris", "rrc00", .update, "torn", 1200, 300⟩ .last),
    .error (.corrupted "torn" "cut off"), .error (.unavailable "down"),
    .ok (Decoded.ofChunk ⟨⟨0⟩, []⟩ ⟨"ris", "rrc00", .update, "late", 0, 300⟩ .last)]

/-- The torn dump is read through, with its failure, before the catalogue is asked again and fails;
the chunk that is found behind the failure begins earlier, and its record comes last. -/
theorem returns_portions_interrupted :
    (∃ h, interrupted.start.2.Run (interruptedResults.map (Except.map some) ++ [.ok none]) h) ∧
      ∃ found d,
        interrupted.start.2.discovery.Finds interrupted.criteria (found ++ [.ok []]) d ∧
        interruptedResults =
          (found.flatMap portionsOf).flatMap (Opener.sample.portionOutput interrupted.criteria) := by
  have fresh : interrupted.Fresh := ⟨rfl, rfl, rfl, rfl, rfl, rfl⟩
  have started : interrupted.start = (.ok (), interrupted.start.2) := rfl
  have run : ∃ h,
      interrupted.start.2.Run (interruptedResults.map (Except.map some) ++ [.ok none]) h :=
    ⟨_, .cons (.of_next 9 (by decide +kernel)) <| .cons (.of_next 9 (by decide +kernel)) <|
      .cons (.of_next 9 (by decide +kernel)) <| .cons (.of_next 9 (by decide +kernel)) <|
      .cons (.of_next 9 (by decide +kernel)) <| .cons (.of_next 9 (by decide +kernel)) <|
      .cons (.of_next 9 (by decide +kernel)) <| .nil _⟩
  obtain ⟨found, d, calls, -, all⟩ := ((returns_portions fresh started rfl).2 _).mp run
  exact ⟨run, found, d, calls, all⟩

end Feed

end RouteFeed
