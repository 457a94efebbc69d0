import RouteFeed.Proofs.Feed.Batches
import RouteFeed.Proofs.Feed.Effects
import RouteFeed.Proofs.Feed.Lifecycle

/-!
# The end of a feed

A feed that says that it has reached its end has nothing left: no dump is open, no failure and no
chunk waits, and all that the chunks which were admitted by then have to deliver has been returned.
It says so only if it does not wait for chunks. And once it has said so it says so again, whatever
is tried and whatever its catalogues list by then, until it is stopped; they are not even asked.

What was admitted and what was returned is written down in the *course* of a feed, that is in a
series of operations between which the catalogues may change on their own.

## Main definitions

* `Feed.around` — a new feed of catalogues of which something may be known already
* `Feed.admitted`, `Feed.admittedIn` — the chunks that are admitted in a step, and in a question
* `Feed.Course` — operations, and what is admitted and returned meanwhile
* `Feed.Ledger` — what has become of the chunks that were admitted

## Main results

* `Feed.Ledger.step`, `Feed.Ledger.course` — every step and every course keeps the ledger
* `Feed.IsOver.course` — nothing happens behind the end
* `Feed.ends_for_good` — the end of a feed
-/

namespace RouteFeed

/-- What is delivered does not depend on what opening a chunk would lead to. -/
theorem Merge.drain_withOpener (c : Criteria) (m : Merge) (opener : Opener) :
    ({ m with opener := opener } : Merge).drain c = m.drain c := by
  fun_induction drain c m with
  | case1 m m' next =>
    exact drain_of_isEmpty (next_eq_none_iff.mp (by rw [next_withOpener, next]))
  | case2 m r m' next ih =>
    rw [← ih]
    exact drain_of_next (r := .ok r) (by rw [next_withOpener, next]; rfl)
  | case3 m e m' next ih =>
    rw [← ih]
    exact drain_of_next (r := .error e) (by rw [next_withOpener, next]; rfl)

/-! ## What comes and goes -/

/-- The chunks that a round admits. -/
def Round.admitted : Round → List Chunk
  | .settled result => foundIn result
  | .waiting _ => []

/-- What a step delivers, if it does. -/
def Step.results : Step → List (Except FeedError (Option Record))
  | .delivered result => [result]
  | .again _ => []

/-- The records and failures among what is returned. -/
def deliveriesIn (results : List (Except FeedError (Option Record))) :
    List (Except FeedError Record) :=
  results.filterMap fun result =>
    match result with
    | .ok none => none
    | .ok (some r) => some (.ok r)
    | .error e => some (.error e)

theorem deliveriesIn_append (results results' : List (Except FeedError (Option Record))) :
    deliveriesIn (results ++ results') = deliveriesIn results ++ deliveriesIn results' :=
  List.filterMap_append

@[simp] theorem deliveriesIn_end : deliveriesIn [.ok none] = [] := rfl

@[simp] theorem deliveriesIn_singleton (r : Except FeedError Record) :
    deliveriesIn [r.map some] = [r] := by
  cases r <;> rfl

/-- Each of the outputs is what a chunk brings that is opened in one of several ways. -/
def Outputs (openers : List Opener) (c : Criteria) :
    List Chunk → List (List (Except FeedError Record)) → Prop :=
  List.Forall₂ fun chunk output => ∃ opener ∈ openers, output = opener.output c chunk

theorem Outputs.mono {openers openers' : List Opener} {c : Criteria} {chunks : List Chunk}
    {outputs : List (List (Except FeedError Record))}
    (outputs_of : Outputs openers c chunks outputs) (more : openers ⊆ openers') :
    Outputs openers' c chunks outputs := by
  refine List.Forall₂.imp ?_ outputs_of
  rintro chunk output ⟨opener, known, same⟩
  exact ⟨opener, more known, same⟩

theorem Outputs.map {openers : List Opener} {opener : Opener} (known : opener ∈ openers)
    (c : Criteria) (chunks : List Chunk) :
    Outputs openers c chunks (chunks.map (opener.output c)) := by
  refine List.forall₂_map_right_iff.mpr (List.forall₂_same.mpr ?_)
  intro chunk _
  exact ⟨opener, known, rfl⟩

/-- The way to open dumps that an operation introduces. -/
def Operation.opener? {κ : Type} : Operation κ → Option Opener
  | openWith opener => some opener
  | _ => none

namespace Discovery

variable {κ : Type} [Catalogue κ] {c : Criteria} {d d' : Discovery κ}

/-- A round leaves it as it is whether to wait. -/
theorem live_round (c : Criteria) (d : Discovery κ) : (d.round c).2.live = d.live := by
  rcases d.round_cases c with ⟨-, round⟩ | ⟨outcome, d', -, hears, ⟨-, delay, round⟩ | ⟨-, round⟩⟩
  · rw [round]
  · rw [round]
    exact hears.live
  · rw [round]
    exact hears.live

/-- Nothing new settles the matter only if there is no waiting for chunks. -/
theorem batch_of_nothing (round : d.round c = (.settled (.ok []), d')) : d'.live = false := by
  have kept := d.live_round c
  rw [round] at kept
  rw [kept, ← Bool.not_eq_true]
  intro live
  rcases d.round_cases c with
    ⟨-, refused⟩ | ⟨outcome, d₁, -, -, ⟨-, delay, waits⟩ | ⟨stops, settled⟩⟩
  · rw [round] at refused
    cases refused
  · rw [round] at waits
    cases waits
  · rw [round] at settled
    cases outcome with
    | error e => cases settled
    | ok answer =>
      have nothing : (d.admission.offerAll c.ribPeriod? answer.chunks).1 = [] := by
        have same := congrArg Prod.fst settled
        simpa using same.symm
      exact stops ⟨live, nothing⟩

end Discovery

namespace Feed

variable {κ : Type} {f g h : Feed κ}

/-- A new feed of catalogues of which something may be known already. -/
def around (d : Discovery κ) (opener : Opener) : Feed κ :=
  { discovery := d, merge := { opener := opener } }

variable [Catalogue κ] {op : Operation κ} {ops : List (Operation κ)}

omit [Catalogue κ] in
theorem isSpent_iff : f.IsSpent ↔
    (f.phase = .running ∧ f.exhausted = false) ∧ f.merge.isEmpty ∧ f.backlog = [] :=
  ⟨fun spent => ⟨⟨spent.running, spent.unfinished⟩, spent.idle, spent.nothing⟩,
    fun spent => ⟨⟨spent.1.1, spent.1.2⟩, spent.2.1, spent.2.2⟩⟩

instance (f : Feed κ) : Decidable f.IsSpent := decidable_of_iff _ isSpent_iff.symm

/-- The chunks that are admitted in the next step. -/
def admitted (f : Feed κ) : List Chunk :=
  if f.IsSpent then (f.discovery.round f.criteria).1.admitted else []

/-- The chunks that are admitted in the steps of a question. -/
def admittedIn : ℕ → Feed κ → List Chunk
  | 0, _ => []
  | steps + 1, f =>
    f.admitted ++
      match f.step with
      | (.delivered _, _) => []
      | (.again _, g) => admittedIn steps g

/-- The chunks that are admitted in an operation. -/
def admittedBy (f : Feed κ) : Operation κ → List Chunk
  | .next steps => f.admittedIn steps
  | _ => []

/-- What a question returns, if the operation is one that is settled. -/
def returnedBy (f : Feed κ) : Operation κ → List (Except FeedError (Option Record))
  | .next steps => (f.next steps).1.toList
  | _ => []

/-- Operations are carried out one after another, and between them the catalogues may change on
their own. Meanwhile chunks are admitted and results are returned. -/
inductive Course : Feed κ → List (Operation κ) → List Chunk →
    List (Except FeedError (Option Record)) → Feed κ → Prop where
  /-- Nothing is done. -/
  | nil (f : Feed κ) : Course f [] [] [] f
  /-- The first operation is carried out, and the others follow. -/
  | operation {f g : Feed κ} {ops : List (Operation κ)} {found : List Chunk}
      {results : List (Except FeedError (Option Record))} (op : Operation κ)
      (others : Course (f.perform op) ops found results g) :
      Course f (op :: ops) (f.admittedBy op ++ found) (f.returnedBy op ++ results) g
  /-- The catalogues change. -/
  | change {f g : Feed κ} {ops : List (Operation κ)} {found : List Chunk}
      {results : List (Except FeedError (Option Record))} (r : Registry κ)
      (others : Course (f.withRegistry r) ops found results g) : Course f ops found results g

/-! ## The ledger -/

theorem admitted_of_spent {outcome : Round} {d : Discovery κ} (spent : f.IsSpent)
    (round : f.discovery.round f.criteria = (outcome, d)) : f.admitted = outcome.admitted := by
  rw [admitted, if_pos spent, round]

theorem admitted_of_not_isSpent (busy : ¬ f.IsSpent) : f.admitted = [] := if_neg busy

/-- What has become of the chunks that were admitted. -/
structure Ledger (openers : List Opener) (found : List Chunk)
    (results : List (Except FeedError (Option Record))) (f : Feed κ) : Prop where
  /-- Dumps are opened in one of the ways that are known. -/
  opener : f.merge.opener ∈ openers
  /-- As long as the feed is set up there is nothing to be read. -/
  unread : f.phase = .allocated →
    f.exhausted = false ∧ f.merge.isEmpty ∧ f.backlog = [] ∧ found = []
  /-- At its end the feed does not wait for chunks, and has nothing left. -/
  ended : f.phase = .running → f.exhausted → f.isLive = false ∧ f.merge.isEmpty ∧ f.backlog = []
  /-- The chunks that were admitted have been opened, or wait. What the former bring has been
  returned, or is held by the merge; what was returned besides are failures. -/
  account : f.phase ≠ .stopped → ∃ opened outputs, ∃ failures : List FeedError,
    found = opened ++ f.backlog ∧ Outputs openers f.criteria opened outputs ∧
      Interleaves (outputs ++ failures.map fun e => [.error e])
        (deliveriesIn results ++ f.merge.drain f.criteria)

namespace Ledger

variable {openers : List Opener} {found : List Chunk}
  {results : List (Except FeedError (Option Record))} {d : Discovery κ}

omit [Catalogue κ] in
/-- Opening a batch takes chunks from those that wait to those that have been opened. -/
theorem openBatch (ledger : f.Ledger openers found results) (isRead : f.IsRead)
    (idle : f.merge.isEmpty) : f.openBatch.Ledger openers found results where
  opener := by
    change (f.merge.add f.criteria f.backlog.batch).opener ∈ openers
    rw [Merge.opener_add]
    exact ledger.opener
  unread allocated := absurd (isRead.running.symm.trans allocated) (by simp)
  ended _ exhausted := absurd (isRead.unfinished.symm.trans exhausted) (by simp)
  account stopped := by
    obtain ⟨opened, outputs, failures, rfl, brought, interleaves⟩ := ledger.account stopped
    rw [Merge.drain_of_isEmpty idle, List.append_nil] at interleaves
    -- the batch is read through alone, behind all that has been returned
    have batch := (f.merge.add f.criteria f.backlog.batch).drain_interleaves f.criteria
    rw [← List.append_nil (Merge.outputs _ _)] at batch
    have batch := Merge.interleaves_of_add idle batch
    rw [List.append_nil] at batch
    refine ⟨opened ++ f.backlog.batch, outputs ++ f.backlog.batch.map
      (f.merge.opener.output f.criteria), failures, ?_, ?_, ?_⟩
    · rw [List.append_assoc]
      exact congrArg (opened ++ ·) f.backlog.batch_append_drop.symm
    · exact List.rel_append brought (Outputs.map ledger.opener f.criteria _)
    · refine (interleaves.append batch).perm ?_
      rw [List.append_assoc, List.append_assoc]
      exact (List.perm_append_comm).append_left outputs

omit [Catalogue κ] in
/-- A failure that has nothing to do with dumps. -/
theorem fail (ledger : f.Ledger openers found results) (idle : f.merge.isEmpty)
    (e : FeedError) : f.Ledger openers found (results ++ [.error e]) where
  opener := ledger.opener
  unread := ledger.unread
  ended := ledger.ended
  account stopped := by
    obtain ⟨opened, outputs, failures, waiting, brought, interleaves⟩ := ledger.account stopped
    rw [Merge.drain_of_isEmpty idle, List.append_nil] at interleaves
    have single : Interleaves [[.error e]] [(.error e : Except FeedError Record)] :=
      .cons (.refl _) (.nil (by simp))
    refine ⟨opened, outputs, failures ++ [e], waiting, brought, ?_⟩
    rw [Merge.drain_of_isEmpty idle, List.append_nil, deliveriesIn_append, List.map_append,
      ← List.append_assoc]
    exact interleaves.append single

omit [Catalogue κ] in
/-- What is known of catalogues does not matter. -/
theorem withDiscovery (ledger : f.Ledger openers found results) (d : Discovery κ)
    (live : d.live = f.discovery.live) :
    Ledger openers found results { f with discovery := d } where
  opener := ledger.opener
  unread := ledger.unread
  ended running exhausted := by
    obtain ⟨batch, nothing⟩ := ledger.ended running exhausted
    exact ⟨live.trans batch, nothing⟩
  account := ledger.account

omit [Catalogue κ] in
/-- What the merge delivers is returned. -/
theorem deliver {r : Except FeedError Record} {m : Merge}
    (ledger : f.Ledger openers found results) (isRead : f.IsRead)
    (next : f.merge.next f.criteria = (r.map some, m)) :
    Ledger openers found (results ++ [r.map some]) { f with merge := m } where
  opener := by
    have same := f.merge.opener_next f.criteria
    rw [next] at same
    rw [same]
    exact ledger.opener
  unread allocated := absurd (isRead.running.symm.trans allocated) (by simp)
  ended _ exhausted := absurd (isRead.unfinished.symm.trans exhausted) (by simp)
  account stopped := by
    obtain ⟨opened, outputs, failures, waiting, brought, interleaves⟩ := ledger.account stopped
    refine ⟨opened, outputs, failures, waiting, brought, ?_⟩
    rw [deliveriesIn_append, deliveriesIn_singleton, List.append_assoc]
    rwa [Merge.drain_of_next next] at interleaves

omit [Catalogue κ] in
/-- Saying that the end has been reached adds nothing. -/
theorem end_returned (ledger : f.Ledger openers found results) :
    f.Ledger openers found (results ++ [.ok none]) where
  opener := ledger.opener
  unread := ledger.unread
  ended := ledger.ended
  account := by
    rw [deliveriesIn_append, deliveriesIn_end, List.append_nil]
    exact ledger.account

omit [Catalogue κ] in
/-- The end is reached when nothing is left and there is no waiting for chunks. -/
theorem exhaust (ledger : f.Ledger openers found results) (spent : f.IsSpent)
    (batch : f.isLive = false) :
    Ledger openers found results { f with exhausted := true } where
  opener := ledger.opener
  unread allocated := absurd (spent.running.symm.trans allocated) (by simp)
  ended _ _ := ⟨batch, spent.idle, spent.nothing⟩
  account := ledger.account

omit [Catalogue κ] in
/-- Chunks that are admitted wait. -/
theorem find (ledger : f.Ledger openers found results) (spent : f.IsSpent) (chunks : List Chunk) :
    Ledger openers (found ++ chunks) results { f with backlog := chunks } where
  opener := ledger.opener
  unread allocated := absurd (spent.running.symm.trans allocated) (by simp)
  ended _ exhausted := absurd (spent.unfinished.symm.trans exhausted) (by simp)
  account stopped := by
    obtain ⟨opened, outputs, failures, rfl, brought, interleaves⟩ := ledger.account stopped
    rw [spent.nothing, List.append_nil]
    exact ⟨opened, outputs, failures, rfl, brought, interleaves⟩

/-- Every step keeps the ledger. -/
theorem step (ledger : f.Ledger openers found results) :
    f.step.2.Ledger openers (found ++ f.admitted) (results ++ f.step.1.results) := by
  have moves := f.moves_step
  have live := f.discovery.live_round f.criteria
  generalize f.step = after at moves
  cases moves with
  | halted halted =>
    rw [admitted_of_not_isSpent fun spent => halted spent.running, List.append_nil]
    by_cases allocated : f.phase = .allocated
    · exact ledger.fail (ledger.unread allocated).2.1 _
    · have stopped : f.phase = .stopped := by
        cases phase : f.phase <;> simp_all
      exact ⟨ledger.opener, ledger.unread, ledger.ended, fun running => absurd stopped running⟩
  | finished running exhausted =>
    have busy : ¬ f.IsSpent :=
      fun spent => absurd (spent.unfinished.symm.trans exhausted) (by simp)
    rw [admitted_of_not_isSpent busy, List.append_nil]
    exact ledger.end_returned
  | @delivers r m isRead next =>
    have busy : ¬ f.IsSpent := by
      intro spent
      have nothing := (Merge.next_eq_none_iff (c := f.criteria)).mpr spent.idle
      rw [next] at nothing
      exact map_some_ne_end r nothing
    rw [admitted_of_not_isSpent busy, List.append_nil]
    exact ledger.deliver isRead next
  | opens isRead idle waiting =>
    rw [admitted_of_not_isSpent fun spent => waiting spent.nothing, List.append_nil]
    simpa [Step.results] using ledger.openBatch isRead idle
  | @waits delay d spent round =>
    rw [round] at live
    rw [admitted_of_spent spent round]
    simpa [Step.results, Round.admitted] using ledger.withDiscovery d live
  | @fails e d spent round =>
    rw [round] at live
    rw [admitted_of_spent spent round]
    simpa [Step.results, Round.admitted, foundIn] using
      (ledger.withDiscovery d live).fail spent.idle e
  | @ends d spent round =>
    rw [round] at live
    rw [admitted_of_spent spent round]
    have spent' : IsSpent { f with discovery := d } := ⟨⟨spent.running, spent.unfinished⟩,
      spent.idle, spent.nothing⟩
    have ended := (ledger.withDiscovery d live).exhaust spent' (Discovery.batch_of_nothing round)
    simpa [Step.results, Round.admitted, foundIn] using ended.end_returned
  | @finds chunks d spent _ round =>
    rw [round] at live
    rw [admitted_of_spent spent round]
    have spent' : IsSpent { f with discovery := d } := ⟨⟨spent.running, spent.unfinished⟩,
      spent.idle, spent.nothing⟩
    have found' := (ledger.withDiscovery d live).find spent' chunks
    have isRead : IsRead { f with discovery := d, backlog := chunks } :=
      ⟨spent.running, spent.unfinished⟩
    simpa [Step.results, Round.admitted, foundIn] using found'.openBatch isRead spent.idle

/-- Every question keeps the ledger, however many steps it makes. -/
theorem next (ledger : f.Ledger openers found results) (steps : ℕ) :
    (f.next steps).2.Ledger openers (found ++ f.admittedIn steps)
      (results ++ (f.next steps).1.toList) := by
  induction steps generalizing f found results with
  | zero => simpa [Feed.next, admittedIn] using ledger
  | succ steps ih =>
    have after := ledger.step
    rw [Feed.next, admittedIn]
    cases first : f.step with
    | mk outcome g =>
      rw [first] at after
      cases outcome with
      | delivered result => simpa [Step.results] using after
      | again delay? =>
        rw [← List.append_assoc]
        exact ih (by simpa [Step.results] using after)

omit [Catalogue κ] in
theorem mono {openers' : List Opener} (ledger : f.Ledger openers found results)
    (more : openers ⊆ openers') : f.Ledger openers' found results where
  opener := more ledger.opener
  unread := ledger.unread
  ended := ledger.ended
  account stopped := by
    obtain ⟨opened, outputs, failures, waiting, brought, interleaves⟩ := ledger.account stopped
    exact ⟨opened, outputs, failures, waiting, brought.mono more, interleaves⟩

omit [Catalogue κ] in
/-- As long as nothing has been admitted the criteria do not matter. -/
theorem reconfigure (ledger : f.Ledger openers found results) (allocated : f.phase = .allocated)
    (c : Criteria) (d : Discovery κ) :
    Ledger openers found results { f with criteria := c, discovery := d } where
  opener := ledger.opener
  unread := ledger.unread
  ended running := absurd (allocated.symm.trans running) (by simp)
  account stopped := by
    obtain ⟨-, idle, -, unread⟩ := ledger.unread allocated
    obtain ⟨opened, outputs, failures, waiting, brought, interleaves⟩ := ledger.account stopped
    obtain ⟨rfl, -⟩ := List.append_eq_nil_iff.mp (waiting.symm.trans unread)
    cases brought
    rw [Merge.drain_of_isEmpty idle] at interleaves
    refine ⟨[], [], failures, waiting, .nil, ?_⟩
    rw [Merge.drain_of_isEmpty idle]
    exact interleaves

theorem start (ledger : f.Ledger openers found results) :
    f.start.2.Ledger openers found results := by
  have starts := f.starts_start
  generalize f.start = after at starts
  cases starts with
  | refused | invalid => exact ledger
  | @failed e d allocated => exact ledger.reconfigure allocated f.criteria d
  | @started d allocated =>
    have ledger' := ledger.reconfigure allocated f.criteria d
    obtain ⟨unfinished, -⟩ := ledger.unread allocated
    refine ⟨ledger'.opener, fun back => ?_, fun _ exhausted => ?_, fun _ => ledger'.account ?_⟩
    · cases back
    · exact absurd (unfinished.symm.trans exhausted) (by simp)
    · exact fun stopped => absurd (allocated.symm.trans stopped) (by simp)

omit [Catalogue κ] in
/-- A feed that has been stopped owes nothing. -/
theorem stop (ledger : f.Ledger openers found results) : f.stop.Ledger openers found results := by
  have stopped := f.phase_stop
  refine ⟨?_, fun allocated => ?_, fun running => ?_, fun going => absurd stopped going⟩
  · rw [Feed.stop]
    split_ifs
    · exact ledger.opener
    · exact ledger.opener
  · exact absurd (stopped.symm.trans allocated) (by simp)
  · exact absurd (stopped.symm.trans running) (by simp)

omit [Catalogue κ] in
/-- Dumps that have been opened are read on in the way in which they were opened. -/
theorem withOpener (ledger : f.Ledger openers found results) (opener : Opener) :
    (f.withOpener opener).Ledger (openers ++ [opener]) found results where
  opener := List.mem_append_right _ (List.mem_singleton.mpr rfl)
  unread := ledger.unread
  ended := ledger.ended
  account := by
    have kept := (ledger.mono (List.subset_append_left openers [opener])).account
    rw [← Merge.drain_withOpener f.criteria f.merge opener] at kept
    exact kept

/-- Every operation keeps the ledger. -/
theorem perform (ledger : f.Ledger openers found results) (op : Operation κ) :
    (f.perform op).Ledger (openers ++ op.opener?.toList) (found ++ f.admittedBy op)
      (results ++ f.returnedBy op) := by
  by_cases setUp : op.IsSetUp
  · have quiet : op.opener? = none ∧ f.admittedBy op = [] ∧ f.returnedBy op = [] := by
      cases op <;> simp_all [Operation.IsSetUp, Operation.opener?, admittedBy, returnedBy]
    obtain ⟨opener, admitted, returned⟩ := quiet
    simp only [opener, admitted, returned, Option.toList_none, List.append_nil]
    by_cases allocated : f.phase = .allocated
    · rw [perform_of_allocated setUp allocated]
      exact ledger.reconfigure allocated _ _
    · rwa [perform_of_isSetUp setUp allocated]
  cases op with
  | openWith opener =>
    simpa [Feed.perform, Operation.opener?, admittedBy, returnedBy] using ledger.withOpener opener
  | start => simpa [Feed.perform, Operation.opener?, admittedBy, returnedBy] using ledger.start
  | next steps =>
    simpa [Feed.perform, Operation.opener?, admittedBy, returnedBy] using ledger.next steps
  | stop => simpa [Feed.perform, Operation.opener?, admittedBy, returnedBy] using ledger.stop
  | _ => exact absurd trivial setUp

/-- Every course keeps the ledger. -/
theorem course {found' : List Chunk} {results' : List (Except FeedError (Option Record))}
    (ledger : f.Ledger openers found results) (course : f.Course ops found' results' g) :
    g.Ledger (openers ++ ops.filterMap Operation.opener?) (found ++ found')
      (results ++ results') := by
  induction course generalizing openers found results with
  | nil => simpa using ledger
  | operation op _ ih =>
    have after := ih (ledger.perform op)
    simp only [List.append_assoc] at after
    rw [List.filterMap_cons]
    cases opener : op.opener? with
    | none => simpa [opener] using after
    | some opener' => simpa [opener] using after
  | @change f _ _ _ _ r _ ih =>
    exact ih (ledger.withDiscovery { f.discovery with registry := r } rfl)

omit [Catalogue κ] in
/-- The ledger of a new feed is empty. -/
theorem around (d : Discovery κ) (opener : Opener) : (around d opener).Ledger [opener] [] [] where
  opener := List.mem_singleton.mpr rfl
  unread _ := ⟨rfl, rfl, rfl, rfl⟩
  ended running := by cases running
  account _ := by
    refine ⟨[], [], [], rfl, .nil, ?_⟩
    rw [Merge.drain_of_isEmpty rfl]
    exact .nil (by simp)

end Ledger

/-! ## Behind the end -/

namespace IsOver

/-- The next question is answered without a look at the catalogues. -/
theorem asksNothing (atEnd : f.IsOver) : f.AsksNothing := by
  intro d
  have atEnd' : IsOver { f with discovery := d } := ⟨atEnd.running, atEnd.exhausted⟩
  rw [atEnd.step_eq, atEnd'.step_eq]

theorem next_eq (atEnd : f.IsOver) (steps : ℕ) : (f.next steps).2 = f ∧
    ∀ result ∈ (f.next steps).1.toList, result = .ok none := by
  cases steps with
  | zero => exact ⟨rfl, by simp [Feed.next]⟩
  | succ steps => simp [Feed.next, atEnd.step_eq]

theorem admittedIn_eq_nil (atEnd : f.IsOver) (steps : ℕ) : f.admittedIn steps = [] := by
  have busy : ¬ f.IsSpent := by
    intro spent
    exact absurd (spent.unfinished.symm.trans atEnd.exhausted) (by simp)
  cases steps with
  | zero => rfl
  | succ steps => rw [admittedIn, admitted_of_not_isSpent busy, atEnd.step_eq, List.nil_append]

/-- Whatever is done with a feed at its end, except that it is stopped, it stays there. -/
theorem perform (atEnd : f.IsOver) (going : op ≠ .stop) : (f.perform op).IsOver ∧
    f.admittedBy op = [] ∧ ∀ result ∈ f.returnedBy op, result = .ok none := by
  have started : f.phase ≠ .allocated := by
    rw [atEnd.running]
    simp
  have continues := continues_perform started op
  generalize f.perform op = g at continues
  cases continues with
  | ignored late =>
    have quiet : f.admittedBy op = [] ∧ f.returnedBy op = [] := by
      cases op <;> simp_all [Operation.IsSetUp, admittedBy, returnedBy]
    exact ⟨atEnd, quiet.1, by simp [quiet.2]⟩
  | openWith opener => exact ⟨⟨atEnd.running, atEnd.exhausted⟩, rfl, by simp [returnedBy]⟩
  | next steps =>
    obtain ⟨same, nothing⟩ := atEnd.next_eq steps
    rw [same]
    exact ⟨atEnd, atEnd.admittedIn_eq_nil steps, nothing⟩
  | stop => exact absurd rfl going

/-- Nothing happens in a course behind the end. -/
theorem course {found : List Chunk} {results : List (Except FeedError (Option Record))}
    (atEnd : f.IsOver) (course : f.Course ops found results g) (going : .stop ∉ ops) :
    g.IsOver ∧ found = [] ∧ ∀ result ∈ results, result = .ok none := by
  induction course with
  | nil => exact ⟨atEnd, rfl, by simp⟩
  | operation op _ ih =>
    rw [List.mem_cons, not_or] at going
    obtain ⟨atEnd', none_admitted, none_returned⟩ := atEnd.perform (Ne.symm going.1)
    obtain ⟨last, rfl, ended⟩ := ih atEnd' going.2
    refine ⟨last, by rw [none_admitted, List.nil_append], ?_⟩
    intro result returned
    rcases List.mem_append.mp returned with now | later
    · exact none_returned result now
    · exact ended result later
  | change r _ ih => exact ih ⟨atEnd.running, atEnd.exhausted⟩ going

end IsOver

/-- A question leaves it as it is whether the feed waits for chunks. -/
theorem isLive_next (f : Feed κ) (steps : ℕ) : (f.next steps).2.isLive = f.isLive := by
  refine next_induction (P := fun g => g.isLive = f.isLive) ?_ rfl steps
  intro g same
  rcases g.discovery_step with ⟨-, -, kept | ⟨-, asked⟩⟩
  · exact (congrArg Discovery.live kept).trans same
  · exact ((congrArg Discovery.live asked).trans (g.discovery.live_round _)).trans same

/-- A feed that says that it has reached its end has done so. -/
theorem isOver_of_returns (ended : f.Returns (.ok none) g) : g.IsOver := by
  obtain ⟨steps, returned⟩ := ended
  induction steps generalizing f with
  | zero => cases returned
  | succ steps ih =>
    have moves := f.moves_step
    rw [next] at returned
    cases first : f.step with
    | mk outcome g' =>
      rw [first] at returned moves
      cases outcome with
      | again delay? => exact ih returned
      | delivered result =>
        cases returned
        -- the merge delivers records and failures only
        generalize after : (Step.delivered (.ok none), g) = outcome at moves
        cases moves with
        | finished running exhausted =>
          cases after
          exact ⟨running, exhausted⟩
        | ends spent round =>
          cases after
          exact ⟨spent.running, rfl⟩
        | @delivers r m isRead next =>
          have same := congrArg Prod.fst after
          exact absurd (Step.delivered.inj same).symm (map_some_ne_end r)
        | halted | opens | waits | fails | finds => cases after

/-- A feed that waits for chunks and has not reached its end does not return that it has. -/
theorem Returns.ne_end_of_isLive {result : Except FeedError (Option Record)}
    (returned : f.Returns result g) (unfinished : f.exhausted = false) (live : f.isLive) :
    result ≠ .ok none ∧ g.exhausted = false ∧ g.isLive := by
  obtain ⟨steps, returned⟩ := returned
  -- a step ends the feed only if there is no waiting
  have waits : (f.next steps).2.exhausted = false ∧ (f.next steps).2.isLive := by
    refine next_induction (P := fun g => g.exhausted = false ∧ g.isLive) ?_ ⟨unfinished, live⟩ steps
    intro g' ⟨unfinished', live'⟩
    have moves := g'.moves_step
    have asked := g'.discovery.live_round g'.criteria
    generalize g'.step = after at moves
    cases moves with
    | halted | finished | delivers | opens => exact ⟨unfinished', live'⟩
    | waits _ round | fails _ round | finds _ _ round =>
      rw [round] at asked
      exact ⟨unfinished', asked.trans live'⟩
    | ends _ round =>
      have batch := Discovery.batch_of_nothing round
      rw [round, batch] at asked
      exact absurd (asked.trans live') (by simp)
  rw [returned] at waits
  refine ⟨?_, waits⟩
  rintro rfl
  have atEnd : g.IsOver := isOver_of_returns ⟨steps, returned⟩
  exact absurd (waits.1.symm.trans atEnd.exhausted) (by simp)

/-- **The end of a feed.** A feed says that it has reached its end only in batch mode, and only if
no chunk waits, no dump is open and no failure waits; so all that the chunks which were admitted by
then have to deliver has been returned, each in the order of its dump, and nothing else but
failures. From then on, until the feed is stopped, every question returns that the end has been
reached, without asking a catalogue, whatever is tried and however the catalogues change. -/
theorem ends_for_good {d : Discovery κ} {opener : Opener} {ops : List (Operation κ)}
    {found : List Chunk} {results : List (Except FeedError (Option Record))} {steps : ℕ}
    (course : (around d opener).Course ops found results f)
    (ended : f.next steps = (some (.ok none), g)) :
    f.isLive = false ∧ (g.backlog = [] ∧ g.merge.lanes = [] ∧ g.merge.failures = []) ∧
      (∃ outputs, ∃ failures : List FeedError,
        Outputs (opener :: ops.filterMap Operation.opener?) g.criteria
          (found ++ f.admittedIn steps) outputs ∧
        Interleaves (outputs ++ failures.map fun e => [.error e]) (deliveriesIn results)) ∧
      ∀ later found' results' h, g.Course later found' results' h → .stop ∉ later →
        h.AsksNothing ∧ h.Returns (.ok none) h ∧ found' = [] ∧
          ∀ result ∈ results', result = .ok none := by
  have atEnd : g.IsOver := isOver_of_returns ⟨steps, ended⟩
  have ledger := ((Ledger.around d opener).course course).next steps
  rw [ended] at ledger
  obtain ⟨batch, idle, nothing⟩ := ledger.ended atEnd.running atEnd.exhausted
  refine ⟨?_, ⟨nothing, Merge.isEmpty_iff.mp idle⟩, ?_, ?_⟩
  · rw [← f.isLive_next steps, ended]
    exact batch
  · obtain ⟨opened, outputs, failures, all, brought, interleaves⟩ := ledger.account (by
      rw [atEnd.running]
      simp)
    rw [nothing, List.append_nil, List.nil_append] at all
    rw [Merge.drain_of_isEmpty idle, List.append_nil, List.nil_append, Option.toList_some,
      deliveriesIn_append, deliveriesIn_end, List.append_nil] at interleaves
    exact ⟨outputs, failures, all ▸ brought, interleaves⟩
  · intro later found' results' h course' going
    obtain ⟨last, none_admitted, none_returned⟩ := atEnd.course course' going
    exact ⟨last.asksNothing, .of_step last.step_eq, none_admitted, none_returned⟩

/-- A feed is set up and read, a record or failure at a time. -/
def readOperations : List (Operation Replay) :=
  [.setInterval ⟨0, some 10⟩, .start, .next 3, .next 3, .next 3, .next 3, .next 3]

/-- Behind the end the feed is asked again, and changes are tried. -/
def triedOperations : List (Operation Replay) :=
  [.setLive, .next 1, .setInterval ⟨0, none⟩, .start, .next 1]

/-- Two answers list four chunks, of which one cannot be opened and one is damaged. All that they
bring has been returned when the feed says that it has reached its end; it says so again when
another catalogue, which lists other chunks, has been put in. -/
theorem ends_for_good_sample : ∃ f g found results,
    (around (.ofList [sampleCatalogue]) Opener.sample).Course readOperations found results f ∧
      f.next 3 = (some (.ok none), g) ∧
      found.map Chunk.locator = ["wide", "lost", "torn", "late"] ∧
      (∃ outputs, ∃ failures : List FeedError, Outputs [Opener.sample] g.criteria found outputs ∧
        Interleaves (outputs ++ failures.map fun e => [.error e]) (deliveriesIn results)) ∧
      ∃ found' results' h, g.Course triedOperations found' results' h ∧ h.AsksNothing ∧
        h.Returns (.ok none) h ∧ found' = [] ∧ ∀ result ∈ results', result = .ok none := by
  let f := (around (.ofList [sampleCatalogue]) Opener.sample).performAll readOperations
  have course : Course _ readOperations _ _ f :=
    .operation _ (.operation _ (.operation _ (.operation _ (.operation _ (.operation _
      (.operation _ (.nil _)))))))
  have last : (f.next 3).1 = some (.ok none) := by decide +kernel
  obtain ⟨g, ended⟩ : ∃ g, f.next 3 = (some (.ok none), g) := by
    generalize f.next 3 = after at last
    exact ⟨after.2, Prod.ext last rfl⟩
  have tried : g.Course triedOperations _ _ _ :=
    .operation _ (.change (.ofList [interruptedCatalogue]) (.operation _ (.operation _
      (.operation _ (.operation _ (.nil _))))))
  obtain ⟨-, -, ⟨outputs, failures, brought, interleaves⟩, later⟩ := ends_for_good course ended
  have silent := later triedOperations _ _ _ tried (by simp [triedOperations])
  have nothing : f.admittedIn 3 = [] := by decide +kernel
  rw [nothing, List.append_nil] at brought
  exact ⟨f, g, _, _, course, ended, by decide +kernel, ⟨outputs, failures, brought, interleaves⟩,
    _, _, _, tried, silent⟩

end Feed

end RouteFeed
