import Mathlib.Data.List.Basic
import RouteFeed.Backlog
import RouteFeed.Discovery.Basic

/-!
# Calls for chunks

A call for chunks asks the active catalogue one question after another until the matter is settled.
What it gathers is written down here: the chunks that were found, the cursor, and what has been
admitted. Only answers add to it. A *course* is what happens to a discovery from one call to the
next: the calls with all that is heard in them, and between them changes that leave what is
remembered as it is, such as a start or another mode.

A call may be watched after any number of rounds. Then it need not be settled yet, and all that
holds of calls holds of those that still wait.

## Main definitions

* `Discovery.outcome?` — what comes of the next question
* `Discovery.heard` — what comes of the questions of a call
* `Gathering`, `Gathering.absorb` — what has been gathered, and what an answer adds to it
* `FetchCall`, `Discovery.Fetches` — calls, one after another

## Main results

* `Discovery.round_cases` — all that a round can do
* `Discovery.listens_fetch` — all that a call can do
* `Discovery.Listens.gathering` — a call gathers what its answers add
* `Discovery.Fetches.keeps` — what each answer keeps, a course keeps
-/

namespace RouteFeed

/-- The answers among the outcomes of questions. -/
def answersOf (outcomes : List (Except FeedError Answer)) : List Answer :=
  outcomes.filterMap Except.toOption

section Answers

variable {outcomes : List (Except FeedError Answer)}

@[simp] theorem answersOf_nil : answersOf [] = [] := rfl

@[simp] theorem answersOf_ok_cons (answer : Answer) :
    answersOf (.ok answer :: outcomes) = answer :: answersOf outcomes := rfl

@[simp] theorem answersOf_error_cons (e : FeedError) :
    answersOf (.error e :: outcomes) = answersOf outcomes := rfl

theorem answersOf_append (outcomes outcomes' : List (Except FeedError Answer)) :
    answersOf (outcomes ++ outcomes') = answersOf outcomes ++ answersOf outcomes' :=
  List.filterMap_append

end Answers

/-- The chunks that a result brings. -/
def foundIn : Except FeedError (List Chunk) → List Chunk
  | .ok chunks => chunks
  | .error _ => []

/-! ## What is gathered -/

/-- What has been gathered from a catalogue. -/
structure Gathering where
  /-- The chunks that were found and wait. -/
  backlog : Backlog
  cursor : Cursor
  admission : Admission

namespace Gathering

/-- Adds what an answer brings. -/
def absorb (period? : Option UInt32) (g : Gathering) (answer : Answer) : Gathering where
  backlog := g.backlog ++ (g.admission.offerAll period? answer.chunks).1
  cursor := answer.next
  admission := (g.admission.offerAll period? answer.chunks).2

/-- Adds what several answers bring, one after another. -/
def absorbAll (period? : Option UInt32) (g : Gathering) (answers : List Answer) : Gathering :=
  answers.foldl (absorb period?) g

@[simp] theorem absorbAll_nil (period? : Option UInt32) (g : Gathering) :
    g.absorbAll period? [] = g := rfl

theorem absorbAll_append (period? : Option UInt32) (g : Gathering)
    (answers answers' : List Answer) :
    g.absorbAll period? (answers ++ answers') =
      (g.absorbAll period? answers).absorbAll period? answers' :=
  List.foldl_append

/-- What each answer keeps true of the chunks listed so far and of what is remembered, several answers
keep true. -/
theorem absorbAll_keeps {P : List Chunk → Admission → Prop} {listed : List Chunk} {g : Gathering}
    (kept : ∀ listed a period? chunks, P listed a →
      P (listed ++ chunks) (a.offerAll period? chunks).2)
    (period? : Option UInt32) (answers : List Answer) (here : P listed g.admission) :
    P (listed ++ answers.flatMap Answer.chunks) (g.absorbAll period? answers).admission := by
  induction answers generalizing listed g with
  | nil => rwa [List.flatMap_nil, List.append_nil]
  | cons answer answers ih =>
    have others := ih (g := g.absorb period? answer) (kept listed _ period? answer.chunks here)
    rwa [List.append_assoc] at others

end Gathering

/-- A call for chunks, as it is seen from outside. -/
structure FetchCall where
  /-- The criteria that it is made with. -/
  criteria : Criteria
  /-- Whether it waits for chunks. -/
  live : Bool
  /-- For how many rounds it is watched. -/
  rounds : Nat
  /-- What comes of its questions. -/
  outcomes : List (Except FeedError Answer)
  /-- What it returns, if it has been settled. -/
  result? : Option (Except FeedError (List Chunk))

namespace FetchCall

/-- The answers that are heard in a call. -/
def answers (call : FetchCall) : List Answer := answersOf call.outcomes

/-- The chunks that are listed in a call. -/
def listed (call : FetchCall) : List Chunk := call.answers.flatMap Answer.chunks

/-- The chunks that a call finds. -/
def found (call : FetchCall) : List Chunk := call.result?.elim [] foundIn

end FetchCall

/-- The catalogue that is put into the place of the active one is active. -/
theorem Registry.current?_replaceCurrent {κ : Type} {r : Registry κ} {k : κ} (k' : κ)
    (current : r.current? = some k) : (r.replaceCurrent k').current? = some k' := by
  obtain ⟨number, active, here⟩ := Option.bind_eq_some_iff.mp current
  have inside := (List.getElem?_eq_some_iff.mp here).1
  simp [Registry.replaceCurrent, Registry.current?, active, inside]

namespace Discovery

variable {κ : Type} [Catalogue κ] {c : Criteria} {d d' d₁ : Discovery κ} {k k' : κ}
  {outcome : Except FeedError Answer} {outcomes : List (Except FeedError Answer)}
  {result? : Option (Except FeedError (List Chunk))} {rounds : Nat}

/-- What has been gathered when some chunks wait. -/
def gathering (d : Discovery κ) (backlog : Backlog) : Gathering := ⟨backlog, d.cursor, d.admission⟩

/-- Questions may be asked: the discovery has been started, and there is a catalogue to be asked. -/
structure IsStarted (d : Discovery κ) : Prop where
  standing : d.standing ≠ .off
  active : d.registry.current?.isSome

/-- What is remembered stays, and questions may be asked if they might before. -/
structure Retains (d d' : Discovery κ) : Prop where
  cursor : d'.cursor = d.cursor
  admission : d'.admission = d.admission
  started : d.IsStarted → d'.IsStarted

/-! ## The start -/

theorem standing_of_start (started : d.start = (.ok (), d')) : d'.standing = .on := by
  unfold start at started
  cases current : d.registry.current? with
  | none => simp [current] at started
  | some k =>
    rw [current] at started
    cases valid : Catalogue.validate k with
    | error e => simp [valid] at started
    | ok =>
      cases begun : Catalogue.start k with
      | mk result k' =>
        simp only [valid, begun, Prod.mk.injEq] at started
        obtain ⟨rfl, rfl⟩ := started
        rfl

/-- A start, whether it succeeds or not, leaves what is remembered as it is. -/
theorem retains_start (d : Discovery κ) : d.Retains d.start.2 := by
  unfold start
  cases current : d.registry.current? with
  | none => exact ⟨rfl, rfl, id⟩
  | some k =>
    dsimp only
    cases Catalogue.validate k with
    | error e => exact ⟨rfl, rfl, fun started => ⟨by simp, started.active⟩⟩
    | ok =>
      -- the catalogue is put back after its start, so it is still the active one
      have active := Registry.current?_replaceCurrent (Catalogue.start k).2 current
      refine ⟨rfl, rfl, fun _ => ⟨?_, by rw [active]; rfl⟩⟩
      cases (Catalogue.start k).1 <;> simp

omit [Catalogue κ] in
theorem retains_mode (d : Discovery κ) (live : Bool) : d.Retains { d with live := live } :=
  ⟨rfl, rfl, fun started => ⟨started.standing, started.active⟩⟩

/-! ## One round -/

/-- What comes of the next question; none if no question may be asked. -/
def outcome? (c : Criteria) (d : Discovery κ) : Option (Except FeedError Answer) :=
  if d.standing = .off then none
  else d.registry.current?.map fun k => (Catalogue.query k c d.cursor).1

/-- A call goes on after the outcome of a question: it waits for chunks, and what has come is
nothing new, or a failure that may go away. -/
def GoesOn (c : Criteria) (d : Discovery κ) (outcome : Except FeedError Answer) : Prop :=
  d.live ∧
    match outcome with
    | .ok answer => (d.admission.offerAll c.ribPeriod? answer.chunks).1 = []
    | .error e => e.isTransient

/-- What a call that does not go on returns. -/
def verdict (c : Criteria) (d : Discovery κ) (outcome : Except FeedError Answer) :
    Except FeedError (List Chunk) :=
  outcome.map fun answer => (d.admission.offerAll c.ribPeriod? answer.chunks).1

omit [Catalogue κ] in
@[simp] theorem verdict_ok (c : Criteria) (d : Discovery κ) (answer : Answer) :
    d.verdict c (.ok answer) = .ok (d.admission.offerAll c.ribPeriod? answer.chunks).1 := rfl

omit [Catalogue κ] in
@[simp] theorem verdict_error (c : Criteria) (d : Discovery κ) (e : FeedError) :
    d.verdict c (.error e) = .error e := rfl

/-- What the outcome of a question changes: an answer adds to what has been gathered, and nothing
else does. -/
structure Hears (c : Criteria) (outcome : Except FeedError Answer) (d d' : Discovery κ) :
    Prop where
  live : d'.live = d.live
  started : d.IsStarted → d'.IsStarted
  gathering : ∀ backlog : Backlog, d'.gathering (backlog ++ foundIn (d.verdict c outcome)) =
    (d.gathering backlog).absorbAll c.ribPeriod? (answersOf [outcome])

theorem round_eq (standing : d.standing ≠ .off) (current : d.registry.current? = some k)
    (query : Catalogue.query k c d.cursor = (outcome, k')) :
    d.round c =
      { d with registry := d.registry.replaceCurrent k' }.conclude c outcome := by
  unfold round
  rw [current]
  cases here : d.standing with
  | off => exact absurd here standing
  | on => simp [query]
  | failing => simp [query]

theorem round_of_outcome?_eq_none (refused : d.outcome? c = none) :
    d.round c = (.settled (.error notStarted), d) := by
  unfold outcome? at refused
  unfold round
  cases here : d.standing with
  | off => rfl
  | on =>
    cases current : d.registry.current? with
    | none => rfl
    | some k => simp [here, current] at refused
  | failing =>
    cases current : d.registry.current? with
    | none => rfl
    | some k => simp [here, current] at refused

omit [Catalogue κ] in
theorem Hears.of_error {e : FeedError} (live : d'.live = d.live)
    (started : d.IsStarted → d'.IsStarted) (cursor : d'.cursor = d.cursor)
    (admission : d'.admission = d.admission) : d.Hears c (.error e) d' where
  live := live
  started := started
  gathering backlog := by
    simp [Discovery.gathering, cursor, admission, foundIn]

omit [Catalogue κ] in
theorem conclude_cases (c : Criteria) (outcome : Except FeedError Answer) (d : Discovery κ) :
    ∃ d', d.Hears c outcome d' ∧
      ((d.GoesOn c outcome ∧ ∃ delay, d.conclude c outcome = (.waiting delay, d')) ∨
        (¬ d.GoesOn c outcome ∧ d.conclude c outcome = (.settled (d.verdict c outcome), d'))) := by
  cases outcome with
  | error e =>
    by_cases goesOn : d.live ∧ e.isTransient
    · exact ⟨d.wait.2, .of_error rfl (fun started => ⟨started.standing, started.active⟩) rfl rfl,
        .inl ⟨goesOn, _, if_pos goesOn⟩⟩
    · exact ⟨{ d with standing := .failing },
        .of_error rfl (fun started => ⟨by simp, started.active⟩) rfl rfl,
        .inr ⟨goesOn, if_neg goesOn⟩⟩
  | ok answer =>
    cases offered : d.admission.offerAll c.ribPeriod? answer.chunks with
    | mk admitted admission =>
      have goesOn_iff : d.GoesOn c (.ok answer) ↔ d.live ∧ admitted = [] := by
        simp [GoesOn, offered]
      have verdict : d.verdict c (.ok answer) = .ok admitted := by simp [offered]
      -- whatever else becomes of the discovery, it remembers the answer
      have hears : ∀ backoff, d.Hears c (.ok answer)
          { d with standing := .on, cursor := answer.next, admission, backoff } := by
        refine fun backoff => ⟨rfl, fun started => ⟨by simp, started.active⟩, fun backlog => ?_⟩
        simp [foundIn, Gathering.absorbAll, Gathering.absorb, gathering, offered]
      rw [verdict, goesOn_iff]
      unfold conclude absorb
      simp only [offered]
      cases admitted with
      | cons chunk chunks => exact ⟨_, hears _, .inr ⟨by simp, rfl⟩⟩
      | nil =>
        by_cases live : d.live
        · exact ⟨_, hears d.backoff.next.2, .inl ⟨⟨live, rfl⟩, _, if_pos live⟩⟩
        · exact ⟨_, hears d.backoff, .inr ⟨fun goesOn => live goesOn.1, if_neg live⟩⟩

/-- A round is refused, or it asks a question, and the call goes on or is settled. -/
theorem round_cases (c : Criteria) (d : Discovery κ) :
    (d.outcome? c = none ∧ d.round c = (.settled (.error notStarted), d)) ∨
      ∃ outcome d', d.outcome? c = some outcome ∧ d.Hears c outcome d' ∧
        ((d.GoesOn c outcome ∧ ∃ delay, d.round c = (.waiting delay, d')) ∨
          (¬ d.GoesOn c outcome ∧ d.round c = (.settled (d.verdict c outcome), d'))) := by
  cases asked : d.outcome? c with
  | none => exact .inl ⟨rfl, round_of_outcome?_eq_none asked⟩
  | some outcome =>
    unfold outcome? at asked
    by_cases off : d.standing = .off
    · simp [off] at asked
    · rw [if_neg off, Option.map_eq_some_iff] at asked
      obtain ⟨k, current, query⟩ := asked
      rw [round_eq off current (Prod.ext query rfl)]
      -- only the catalogue has changed before the outcome is dealt with
      obtain ⟨d', hears, goes⟩ := conclude_cases c outcome
        { d with registry := d.registry.replaceCurrent (Catalogue.query k c d.cursor).2 }
      have active := Registry.current?_replaceCurrent (Catalogue.query k c d.cursor).2 current
      exact .inr ⟨outcome, d', rfl,
        ⟨hears.live, fun _ => hears.started ⟨off, by rw [active]; rfl⟩, hears.gathering⟩, goes⟩

/-- A round leaves it as it is that questions may be asked. -/
theorem IsStarted.round (started : d.IsStarted) (c : Criteria) : (d.round c).2.IsStarted := by
  rcases d.round_cases c with ⟨-, round⟩ | ⟨outcome, d', -, hears, ⟨-, delay, round⟩ | ⟨-, round⟩⟩
  · rwa [round]
  · rw [round]
    exact hears.started started
  · rw [round]
    exact hears.started started

/-! ## One call -/

/-- What comes of the questions of a call, in at most so many rounds. -/
def heard (c : Criteria) : Nat → Discovery κ → List (Except FeedError Answer)
  | 0, _ => []
  | rounds + 1, d =>
    (d.outcome? c).toList ++
      match d.round c with
      | (.settled _, _) => []
      | (.waiting _, d) => heard c rounds d

/-- A call that is watched for some rounds hears some outcomes, and returns a result if it has been
settled. -/
inductive Listens (c : Criteria) : Nat → Discovery κ → List (Except FeedError Answer) →
    Option (Except FeedError (List Chunk)) → Discovery κ → Prop where
  /-- The call is watched no longer. -/
  | waiting (d : Discovery κ) : Listens c 0 d [] none d
  /-- No question may be asked. -/
  | refused {rounds : Nat} {d : Discovery κ} (refused : d.outcome? c = none) :
      Listens c (rounds + 1) d [] (some (.error notStarted)) d
  /-- The first question settles the matter. -/
  | settled {rounds : Nat} {d d' : Discovery κ} {outcome : Except FeedError Answer}
      (asked : d.outcome? c = some outcome) (hears : d.Hears c outcome d')
      (stops : ¬ d.GoesOn c outcome) :
      Listens c (rounds + 1) d [outcome] (some (d.verdict c outcome)) d'
  /-- The call goes on after the first question. -/
  | again {rounds : Nat} {d d₁ d' : Discovery κ} {outcome : Except FeedError Answer}
      {outcomes : List (Except FeedError Answer)}
      {result? : Option (Except FeedError (List Chunk))} (asked : d.outcome? c = some outcome)
      (hears : d.Hears c outcome d₁) (goesOn : d.GoesOn c outcome)
      (others : Listens c rounds d₁ outcomes result? d') :
      Listens c (rounds + 1) d (outcome :: outcomes) result? d'

/-- A call listens to what is heard in it. -/
theorem listens_fetch (c : Criteria) (rounds : Nat) (d : Discovery κ) :
    d.Listens c rounds (d.heard c rounds) (d.fetch c rounds).1 (d.fetch c rounds).2 := by
  -- by induction on the rounds; each case of a round is a constructor
  induction rounds generalizing d with
  | zero => exact .waiting d
  | succ rounds ih =>
    rw [heard, fetch]
    rcases d.round_cases c with ⟨refused, round⟩ |
      ⟨outcome, d', asked, hears, ⟨goesOn, delay, round⟩ | ⟨stops, round⟩⟩
    · simp only [refused, round]
      exact .refused refused
    · simp only [asked, round]
      exact .again asked hears goesOn (ih d')
    · simp only [asked, round]
      exact .settled asked hears stops

namespace Listens

theorem started (listens : d.Listens c rounds outcomes result? d') (started : d.IsStarted) :
    d'.IsStarted := by
  induction listens with
  | waiting => exact started
  | refused => exact started
  | settled _ hears => exact hears.started started
  | again _ hears _ _ ih => exact ih (hears.started started)

/-- What is gathered in a call is what the answers that are heard in it add. -/
theorem gathering (listens : d.Listens c rounds outcomes result? d') (backlog : Backlog) :
    d'.gathering (backlog ++ result?.elim [] foundIn) =
      (d.gathering backlog).absorbAll c.ribPeriod? (answersOf outcomes) := by
  induction listens with
  | waiting => simp
  | refused => simp [foundIn]
  | settled _ hears => exact hears.gathering backlog
  | @again _ d d₁ d' outcome outcomes result? _ hears goesOn _ ih =>
    -- nothing is found before the call is settled
    have nothing : foundIn (d.verdict c outcome) = [] := by
      cases outcome with
      | ok answer => exact goesOn.2
      | error e => rfl
    have first := hears.gathering backlog
    rw [nothing, List.append_nil] at first
    rw [ih, first, ← Gathering.absorbAll_append, ← answersOf_append]
    rfl

end Listens

/-! ## Calls one after another -/

/-- A call that is watched for at most so many rounds. -/
def call (c : Criteria) (rounds : Nat) (d : Discovery κ) : FetchCall where
  criteria := c
  live := d.live
  rounds := rounds
  outcomes := d.heard c rounds
  result? := (d.fetch c rounds).1

/-- A course of calls, one after another. -/
inductive Fetches : Discovery κ → List FetchCall → Discovery κ → Prop where
  /-- No call is made. -/
  | nil (d : Discovery κ) : Fetches d [] d
  /-- First a call is made. -/
  | call {d d' : Discovery κ} {calls : List FetchCall} (c : Criteria) (rounds : Nat)
      (others : Fetches (d.fetch c rounds).2 calls d') : Fetches d (d.call c rounds :: calls) d'
  /-- First something else is done. -/
  | between {d d₁ d' : Discovery κ} {calls : List FetchCall} (retains : d.Retains d₁)
      (others : Fetches d₁ calls d') : Fetches d calls d'

/-- What each answer keeps true of the chunks listed so far and of what is remembered, a course keeps
true. -/
theorem Fetches.keeps {P : List Chunk → Admission → Prop} {calls : List FetchCall}
    {listed : List Chunk}
    (kept : ∀ listed a period? chunks, P listed a →
      P (listed ++ chunks) (a.offerAll period? chunks).2)
    (fetches : d.Fetches calls d') (here : P listed d.admission) :
    P (listed ++ calls.flatMap FetchCall.listed) d'.admission := by
  induction fetches generalizing listed with
  | nil => rwa [List.flatMap_nil, List.append_nil]
  | @call d d' calls c rounds _ ih =>
    -- the chunks that are found in the call do not matter here, only its answers
    have gathers := (d.listens_fetch c rounds).gathering []
    have first := Gathering.absorbAll_keeps kept c.ribPeriod? (answersOf (d.heard c rounds))
      (g := d.gathering []) here
    rw [← gathers] at first
    have others := ih first
    rwa [List.append_assoc] at others
  | between retains _ ih =>
    rw [← retains.admission] at here
    exact ih here

end Discovery

end RouteFeed
