import Mathlib.Data.List.Induction
import RouteFeed.Proofs.Feed.Delivery
import RouteFeed.Proofs.Feed.Ending
import RouteFeed.Proofs.Feed.Translation

/-!
# What a feed asks

A feed asks one catalogue only, the one that is active when the feed is started, and asks it only
after it has been found to be set up and has been started. The first question is about all chunks,
every other one goes on behind the last answer, and all of them are asked with the criteria that
were checked at the start. This holds whatever has been done before and is done later: starts that
fail may have turned to other catalogues, and questions that fail may be followed by others.

Questions are read off the catalogues, which are watched.

## Main definitions

* `Feed.Launches` — a start that succeeds, and the catalogue that it starts
* `Discovery.IsAsking` — one catalogue has been asked since its start, and no other one
* `Feed.IsUnasked` — no catalogue has been asked, and none will be without a start

## Main results

* `Discovery.IsAsking.round` — one question
* `Feed.IsUnasked.perform`, `Feed.IsAsking.perform` — one operation, before the start and after it
* `Feed.asks_in_order` — any operations
-/

namespace RouteFeed

variable {κ : Type}

/-- Watching begins with nothing written down, and what has been written down can be forgotten. -/
theorem Discovery.map_watched (d : Discovery κ) : (d.map .new).map Watched.catalogue = d := by
  simp [Discovery.map, Registry.map, Watched.new, Function.comp_def]

theorem Operation.map_watched (ops : List (Operation κ)) :
    (ops.map (.map .new)).map (.map Watched.catalogue) = ops := by
  have each : ∀ op : Operation κ, (op.map .new).map Watched.catalogue = op := by
    intro op
    cases op <;> rfl
  rw [List.map_map]
  exact (List.map_congr_left fun op _ => each op).trans (List.map_id ops)

/-! ## One question -/

/-- Only an answer moves the cursor on. -/
theorem Discovery.cursor_conclude (c : Criteria) (outcome : Except FeedError Answer)
    (d : Discovery κ) :
    (d.conclude c outcome).2.cursor = (outcome.toOption.map Answer.next).getD d.cursor := by
  cases outcome with
  | error e =>
    rw [conclude]
    split_ifs <;> rfl
  | ok answer =>
    unfold conclude absorb
    dsimp only
    cases (d.admission.offerAll c.ribPeriod? answer.chunks).1 with
    | cons chunk chunks => rfl
    | nil =>
      dsimp only
      split_ifs <;> rfl

theorem Registry.table_replaceCurrent {r : Registry κ} {number : ℕ}
    (active : r.active? = some number) (k : κ) :
    (r.replaceCurrent k).table = r.table.set number k := by
  simp only [replaceCurrent, active]

theorem Registry.mem_replaceCurrent {r : Registry κ} {k k' : κ}
    (known : k ∈ (r.replaceCurrent k').table) : k ∈ r.table ∨ k = k' := by
  cases active : r.active? with
  | none =>
    simp only [replaceCurrent, active] at known
    exact .inl known
  | some number =>
    rw [table_replaceCurrent active] at known
    exact List.mem_or_eq_of_mem_set known

theorem Registry.current?_eq_some {r : Registry κ} {k : κ} {number : ℕ}
    (active : r.active? = some number) (here : r.table[number]? = some k) :
    r.current? = some k := by
  rw [current?, active, Option.bind_some, here]

/-- No catalogue of the registry has been asked. -/
def Registry.IsUnasked (r : Registry (Watched κ)) : Prop := ∀ w ∈ r.table, w.questions = []

theorem Registry.IsUnasked.replaceCurrent {r : Registry (Watched κ)} (unasked : r.IsUnasked)
    {w : Watched κ} (nothing : w.questions = []) : (r.replaceCurrent w).IsUnasked := by
  intro w' known
  rcases Registry.mem_replaceCurrent known with old | rfl
  · exact unasked w' old
  · exact nothing

namespace Discovery

variable {d d' : Discovery (Watched κ)} {c : Criteria} {number : ℕ} {w : Watched κ}

/-- Since it was started, the catalogue of a number has been asked with the criteria, and will be
asked next behind its last answer; it had not been asked before, and no other one has been asked. -/
structure IsAsking (d : Discovery (Watched κ)) (number : ℕ) (w : Watched κ) (c : Criteria) :
    Prop where
  /-- The catalogue is active. -/
  active : d.registry.active? = some number
  /-- Nothing has been asked before it was started. -/
  earlier : w.questions = []
  /-- What has been written down since then. -/
  interview : ∃ w' entries, d.registry.table[number]? = some w' ∧
    w'.log = w.log ++ .started w.catalogue (.ok ()) :: entries ∧
    Watched.Interview c entries d.cursor
  /-- Nothing has been asked of others. -/
  others : ∀ other w', other ≠ number → d.registry.table[other]? = some w' → w'.questions = []

namespace IsAsking

/-- Only the registry and the cursor matter. -/
theorem congr (asking : d.IsAsking number w c) (registry : d'.registry = d.registry)
    (cursor : d'.cursor = d.cursor) : d'.IsAsking number w c where
  active := registry ▸ asking.active
  earlier := asking.earlier
  interview := by
    rw [registry, cursor]
    exact asking.interview
  others := by
    rw [registry]
    exact asking.others

variable [Catalogue κ]

/-- What is asked next is asked of the same catalogue, with the same criteria, and behind its last
answer. -/
theorem round (asking : d.IsAsking number w c) : (d.round c).2.IsAsking number w c := by
  by_cases off : d.standing = .off
  · have nothing : d.outcome? c = none := if_pos off
    rwa [round_of_outcome?_eq_none nothing]
  obtain ⟨w', entries, here, log, interview⟩ := asking.interview
  have current := Registry.current?_eq_some asking.active here
  have inside := (List.getElem?_eq_some_iff.mp here).1
  cases query : Catalogue.query w' c d.cursor with
  | mk outcome w'' =>
    have log' := Watched.log_of_query query
    rw [round_eq off current query]
    -- the question has been written down; what follows from its outcome moves the cursor at most
    have registry := (conclude_spec c outcome
      { d with registry := d.registry.replaceCurrent w'' }).1
    have cursor := cursor_conclude c outcome { d with registry := d.registry.replaceCurrent w'' }
    have table := Registry.table_replaceCurrent asking.active w''
    refine ⟨?_, asking.earlier, ⟨w'', entries ++ [.asked c d.cursor outcome], ?_, ?_, ?_⟩, ?_⟩
    · rw [registry, Registry.active?_replaceCurrent, asking.active]
    · rw [registry, table, List.getElem?_set_self inside]
    · rw [log', log, List.append_assoc, List.cons_append]
    · rw [cursor]
      cases outcome with
      | ok answer => exact .answered answer interview
      | error e => exact .failed e interview
    · intro other w₁ apart known
      rw [registry, table, List.getElem?_set_ne (Ne.symm apart)] at known
      exact asking.others other w₁ apart known

end IsAsking

variable [Catalogue κ]

/-- A start that fails asks nothing. -/
theorem isUnasked_of_start {e : FeedError} (unasked : d.registry.IsUnasked)
    (begun : d.start = (.error e, d')) : d'.registry.IsUnasked ∧ d'.cursor = d.cursor := by
  have starts := d.starts_start
  rw [begun] at starts
  cases starts with
  | nothing | invalid => exact ⟨unasked, rfl⟩
  | failed current _ begun' =>
    have nothing := unasked _ (Registry.mem_of_current? current)
    exact ⟨unasked.replaceCurrent ((Watched.questions_of_start begun').trans nothing), rfl⟩

/-- A start that succeeds asks nothing yet. -/
theorem isAsking_of_start (unasked : d.registry.IsUnasked) (new : d.cursor = .start)
    (begun : d.start = (.ok (), d')) (c : Criteria) :
    ∃ number w, d.registry.active? = some number ∧ d.registry.table[number]? = some w ∧
      Catalogue.validate w = .ok () ∧ (Catalogue.start w).1 = .ok () ∧ d'.IsAsking number w c := by
  have starts := d.starts_start
  rw [begun] at starts
  cases starts with
  | @started w w' current valid begun' =>
    obtain ⟨number, active, here⟩ := Option.bind_eq_some_iff.mp current
    have inside := (List.getElem?_eq_some_iff.mp here).1
    have table := Registry.table_replaceCurrent active w'
    refine ⟨number, w, active, here, valid, by rw [begun'], ?_⟩
    refine ⟨?_, unasked w (List.mem_of_getElem? here), ⟨w', [], ?_, ?_, ?_⟩, ?_⟩
    · exact (d.registry.active?_replaceCurrent w').trans active
    · rw [table, List.getElem?_set_self inside]
    · exact (Watched.log_of_start begun').2
    · rw [new]
      exact .start
    · intro other w₁ apart known
      rw [table, List.getElem?_set_ne (Ne.symm apart)] at known
      exact unasked w₁ (List.mem_of_getElem? known)

end Discovery

namespace Feed

variable [Catalogue κ]

/-- The start of the feed succeeds: its criteria make sense, and the catalogue of a number, which is
active, is found to be set up and is started. -/
structure Launches (f : Feed κ) (number : ℕ) (k : κ) : Prop where
  allocated : f.phase = .allocated
  succeeds : f.start.1 = .ok ()
  criteria : f.criteria.validate = .ok ()
  active : f.discovery.registry.active? = some number
  here : f.discovery.registry.table[number]? = some k
  valid : Catalogue.validate k = .ok ()
  begins : (Catalogue.start k).1 = .ok ()

variable {f g : Feed (Watched κ)} {c : Criteria} {number : ℕ} {w : Watched κ}

/-! ## After the start -/

/-- The feed has been started, has these criteria, and asks the catalogue of a number with them. -/
structure IsAsking (f : Feed (Watched κ)) (number : ℕ) (w : Watched κ) (c : Criteria) : Prop where
  started : f.phase ≠ .allocated
  criteria : f.criteria = c
  discovery : f.discovery.IsAsking number w c

namespace IsAsking

theorem step (asking : f.IsAsking number w c) : f.step.2.IsAsking number w c := by
  obtain ⟨phase, criteria, same | ⟨-, round⟩⟩ := f.discovery_step
  · refine ⟨phase ▸ asking.started, criteria.trans asking.criteria, ?_⟩
    rw [same]
    exact asking.discovery
  · refine ⟨phase ▸ asking.started, criteria.trans asking.criteria, ?_⟩
    rw [round, asking.criteria]
    exact asking.discovery.round

/-- Nothing that is done after the start changes what a feed asks. -/
theorem perform (asking : f.IsAsking number w c) (op : Operation (Watched κ)) :
    (f.perform op).IsAsking number w c := by
  have continues := continues_perform asking.started op
  generalize f.perform op = g at continues
  cases continues with
  | ignored => exact asking
  | openWith opener => exact ⟨asking.started, asking.criteria, asking.discovery⟩
  | next steps =>
    exact next_induction (P := fun g => g.IsAsking number w c) (fun g here => here.step) asking
      steps
  | stop =>
    rw [Feed.stop]
    split_ifs
    · exact asking
    · exact ⟨by simp, asking.criteria, asking.discovery.congr rfl rfl⟩

end IsAsking

/-! ## Before the start -/

/-- No catalogue has been asked. If the feed may still be started, it will ask about all chunks
first; else it is stopped. -/
structure IsUnasked (f : Feed (Watched κ)) : Prop where
  registry : f.discovery.registry.IsUnasked
  halted : f.phase ≠ .running
  cursor : f.phase = .allocated → f.discovery.cursor = .start

namespace IsUnasked

/-- Setting a feed up asks nothing of its catalogues. -/
theorem configured (unasked : f.IsUnasked) (op : Operation κ) :
    (f.discovery.registry.configured (op.map .new)).IsUnasked := by
  intro w known
  rcases Registry.mem_configured known with old | ⟨w₀, old, name, value, made⟩ | new
  · exact unasked.registry w old
  · rw [Watched.questions, Watched.log_of_set made]
    exact unasked.registry w₀ old
  · -- a catalogue is watched from the moment when it is added
    cases op with
    | register k =>
      cases new
      rfl
    | _ => cases new

/-- A start that fails asks nothing either, and one that succeeds asks nothing yet. -/
theorem start (unasked : f.IsUnasked) :
    f.start.2.IsUnasked ∨
      ∃ number w, f.Launches number w ∧ f.start.2.IsAsking number w f.criteria := by
  have registry : (f.discovery.readied f.criteria).registry.IsUnasked := unasked.registry
  have starts := f.starts_start
  generalize result : f.start = after at starts
  cases starts with
  | refused | invalid => exact .inl unasked
  | failed allocated valid begun =>
    obtain ⟨registry, cursor⟩ := Discovery.isUnasked_of_start registry begun
    exact .inl ⟨registry, unasked.halted, fun allocated => cursor.trans (unasked.cursor allocated)⟩
  | started allocated valid begun =>
    obtain ⟨number, w, active, here, checked, begins, asking⟩ :=
      Discovery.isAsking_of_start registry (unasked.cursor allocated) begun f.criteria
    exact .inr ⟨number, w, ⟨allocated, by rw [result], valid, active, here, checked, begins⟩,
      by simp, rfl, asking⟩

/-- Until it is started, nothing that is done with a feed asks anything. -/
theorem perform (unasked : f.IsUnasked) (op : Operation κ) :
    (f.perform (op.map .new)).IsUnasked ∨ op = .start ∧
      ∃ number w, f.Launches number w ∧
        (f.perform (op.map .new)).IsAsking number w f.criteria := by
  by_cases setUp : op.IsSetUp
  · left
    have setUp' : (op.map Watched.new).IsSetUp := Operation.isSetUp_map.mpr setUp
    by_cases allocated : f.phase = .allocated
    · rw [perform_of_allocated setUp' allocated]
      exact ⟨unasked.configured op, unasked.halted, unasked.cursor⟩
    · rwa [perform_of_isSetUp setUp' allocated]
  cases op with
  | openWith opener => exact .inl ⟨unasked.registry, unasked.halted, unasked.cursor⟩
  | start => exact unasked.start.imp id fun launched => ⟨rfl, launched⟩
  | next steps =>
    left
    rw [Operation.map, Feed.perform, next_of_not_running unasked.halted]
    exact unasked
  | stop =>
    left
    have stopped : (f.perform (Operation.stop.map Watched.new)).phase = .stopped := f.phase_stop
    refine ⟨?_, by simp [stopped], by simp [stopped]⟩
    rw [Operation.map, Feed.perform, Feed.stop]
    split_ifs
    · exact unasked.registry
    · exact unasked.registry
  | _ => exact absurd trivial setUp

end IsUnasked

/-! ## Any operations -/

omit [Catalogue κ] in
theorem map_around {κ' : Type} (φ : κ → κ') (d : Discovery κ) (opener : Opener) :
    (around d opener).map φ = around (d.map φ) opener := rfl

/-- **What a feed asks.** A feed of watched catalogues does what it does if they are not watched. So
after any operations either no catalogue has been asked, or among the operations there is a start
that succeeded, with criteria that make sense, and only the catalogue that was active then has been
asked, only after it was found to be set up and was started, and only with the criteria of that
time: the first time from the start, and every other time from the cursor of its last answer. -/
theorem asks_in_order {d : Discovery κ} {opener : Opener} {ops : List (Operation κ)}
    {f : Feed (Watched κ)} (new : d.cursor = .start)
    (performed : (around (d.map .new) opener).performAll (ops.map (.map .new)) = f) :
    f.map Watched.catalogue = (around d opener).performAll ops ∧
      (f.IsUnasked ∨ ∃ before after g number w,
        ops = before ++ .start :: after ∧
        (around (d.map .new) opener).performAll (before.map (.map .new)) = g ∧
        g.Launches number w ∧ f.IsAsking number w g.criteria) := by
  constructor
  · have erased := performAll_map Watched.hom_catalogue (around (d.map .new) opener)
      (ops.map (.map .new))
    rw [performed, Operation.map_watched, map_around, d.map_watched] at erased
    exact erased.symm
  subst performed
  -- by induction on the operations from the end: the last one finds the feed before or after its
  -- start, and only a start leads from the one to the other
  induction ops using List.reverseRecOn with
  | nil =>
    refine .inl ⟨fun w known => ?_, by simp [performAll, around], fun _ => new⟩
    obtain ⟨k, -, rfl⟩ := List.mem_map.mp known
    rfl
  | append_singleton ops op ih =>
    rw [List.map_append, List.map_singleton, performAll, List.foldl_concat]
    rcases ih with unasked | ⟨before, after, g, number, w, rfl, performed, launches, asking⟩
    · rcases unasked.perform op with unasked' | ⟨rfl, number, w, launches, asking⟩
      · exact .inl unasked'
      · exact .inr ⟨ops, [], _, number, w, rfl, rfl, launches, asking⟩
    · exact .inr ⟨before, after ++ [op], g, number, w, by simp, performed, launches,
        asking.perform _⟩

/-- A catalogue that cannot be started at first, and one that fails to answer its second
question. -/
def askingTable : List Replay :=
  [{ sampleCatalogue with name := "late", starts := [some (.unavailable "down")] },
    { sampleCatalogue with
      script := [.chunks (Chunk.samples.take 3) (some (.ofText "first")),
        .failure (.unavailable "busy"), .chunks [] (some (.ofText "second"))] }]

/-- Two starts fail, one since there is no interval and one since the first catalogue cannot be
started; then the other one is made active, and the feed is started and read. -/
def askingOperations : List (Operation Replay) :=
  [.start, .setInterval ⟨0, some 10⟩, .start, .select 1, .start] ++ List.replicate 8 (.next 9) ++
    [.select 0, .stop, .next 1]

/-- A feed of these catalogues, which are watched, after these operations. -/
def askingFeed : Feed (Watched Replay) :=
  (around ((Discovery.ofList askingTable).map .new) Opener.sample).performAll
    (askingOperations.map (.map .new))

/-- Only the second catalogue is asked: from the start, then behind its first answer, and there
again after it has failed. -/
theorem asks_in_order_sample :
    askingFeed.discovery.registry.table.map Watched.questions =
      [[], [.start, .ofText "first", .ofText "first"]] ∧
    ∃ (g : Feed (Watched Replay)) (number : ℕ) (w : Watched Replay), g.Launches number w ∧
      askingFeed.IsAsking number w g.criteria := by
  have asked : askingFeed.discovery.registry.table.map Watched.questions =
      [[], [.start, .ofText "first", .ofText "first"]] := by decide +kernel
  refine ⟨asked, ?_⟩
  have new : (Discovery.ofList askingTable).cursor = .start := rfl
  have performed : (around ((Discovery.ofList askingTable).map .new) Opener.sample).performAll
    (askingOperations.map (.map .new)) = askingFeed := rfl
  rcases (asks_in_order new performed).2 with
    unasked | ⟨_, _, g, number, w, -, -, launches, asking⟩
  · have some_asked : [.start, .ofText "first", .ofText "first"] ∈
        askingFeed.discovery.registry.table.map Watched.questions := by
      rw [asked]
      exact List.mem_of_mem_tail List.mem_cons_self
    obtain ⟨w, known, questions⟩ := List.mem_map.mp some_asked
    rw [unasked.registry w known] at questions
    cases questions
  · exact ⟨g, number, w, launches, asking⟩

end Feed

end RouteFeed
