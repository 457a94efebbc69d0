import RouteFeed.Proofs.Feed.Delivery
import RouteFeed.Proofs.Merge.Erasure

/-!
# A damaged dump costs nothing but itself

Two feeds are set up alike and read the same catalogues, but the dumps at one place have other
contents for each of them: they may be missing, empty or damaged, or hold any records. Then the
feeds deliver the same from elsewhere, in the same order: the same records with the same positions,
and the same failures.

Both feeds are compared with a third one, in which the dumps at the place cannot be opened. Whenever
one of the feeds makes a step, the third one makes the same step, unless the step delivers something
from the place itself; then the third one stays where it is. So what the third feed delivers is what
each of the two delivers, with things from the place itself in between.

## Main definitions

* `Feed.withOpener` — a feed that opens chunks in another way
* `Feed.Erases` — the second feed is the first one without the dumps at a place
* `isElsewhere` — whether a result comes from elsewhere

## Main results

* `Feed.Erases.step` — one step
* `Feed.Erases.steps` — any number of steps
* `Feed.agree_elsewhere` — two feeds up to their ends
-/

namespace RouteFeed

/-- Whether a result comes from elsewhere: a record by the place where its dump lies, a failure by
what is known of the failures at the place. -/
def isElsewhere (place : String) (isOwn : FeedError → Bool) : Except FeedError Record → Bool
  | .ok r => r.locator ≠ place
  | .error e => !isOwn e

theorem Opener.Gives.not_isElsewhere {opener : Opener} {place : String} {isOwn : FeedError → Bool}
    {result : Except FeedError Record} (gives : opener.Gives place result)
    (known : ∀ e, opener.Gives place (.error e) → isOwn e) :
    isElsewhere place isOwn result = false := by
  cases result with
  | ok r =>
    cases gives with
    | record there => simp [isElsewhere, there]
  | error e => simp [isElsewhere, known e gives]

theorem exists_eq_map_some {result : Except FeedError (Option Record)}
    (answered : result ≠ .ok none) : ∃ r : Except FeedError Record, result = r.map some := by
  cases result with
  | error e => exact ⟨.error e, rfl⟩
  | ok r? =>
    cases r? with
    | none => exact absurd rfl answered
    | some r => exact ⟨.ok r, rfl⟩

namespace Feed

variable {κ : Type} {f f₀ g g' h h' : Feed κ} {opener : Opener} {place : String} {outcome : Step}
  {results : List (Except FeedError (Option Record))}

/-- A feed with other dumps open. -/
def withMerge (f : Feed κ) (merge : Merge) : Feed κ := { f with merge := merge }

/-- A feed that opens chunks in another way. -/
def withOpener (f : Feed κ) (opener : Opener) : Feed κ :=
  f.withMerge { f.merge with opener := opener }

/-- The second feed is the first one without the dumps at a place. -/
structure Erases (opener : Opener) (place : String) (f f₀ : Feed κ) : Prop where
  same : f₀ = { f with merge := f₀.merge }
  merge : ∃ number, f.merge.Erases opener place number f₀.merge

theorem Erases.openBatch (erases : f.Erases opener place f₀) :
    f.openBatch.Erases opener place f₀.openBatch := by
  obtain ⟨same, number, merge⟩ := erases
  rw [same]
  exact ⟨rfl, merge.add f.criteria f.backlog.batch⟩

theorem Erases.withOpener_without (idle : f.merge.isEmpty) (opens : f.merge.opener = opener) :
    f.Erases opener place (f.withOpener (opener.without place)) :=
  ⟨rfl, Merge.Erases.of_isEmpty idle opens⟩

variable [Catalogue κ]

namespace Erases

/-! ## One step -/

theorem discover (erases : f.Erases opener place f₀) :
    f₀.discover.1 = f.discover.1 ∧ f.discover.2.Erases opener place f₀.discover.2 := by
  obtain ⟨same, merge⟩ := erases
  rw [same]
  unfold Feed.discover
  dsimp only
  cases f.discovery.round f.criteria with
  | mk round discovery =>
    cases round with
    | waiting delay => exact ⟨rfl, rfl, merge⟩
    | settled result =>
      cases result with
      | error e => exact ⟨rfl, rfl, merge⟩
      | ok chunks =>
        cases chunks with
        | nil => exact ⟨rfl, rfl, merge⟩
        | cons chunk chunks => exact ⟨rfl, openBatch ⟨rfl, merge⟩⟩

/-- A feed that is not read makes no difference between the dumps. -/
theorem step_of_not_isRead (erases : f.Erases opener place f₀) (notRead : ¬ f.IsRead)
    (first : f.step = (outcome, g)) :
    ∃ g₀, f₀.step = (outcome, g₀) ∧ g.Erases opener place g₀ := by
  have same := erases.same
  by_cases running : f.phase = .running
  · have exhausted : f.exhausted := by
      by_contra unfinished
      exact notRead ⟨running, by simpa using unfinished⟩
    simp only [Feed.step, running, exhausted, ne_eq, not_true_eq_false, ↓reduceIte,
      Prod.mk.injEq] at first
    obtain ⟨rfl, rfl⟩ := first
    refine ⟨f₀, ?_, erases⟩
    rw [same]
    simp [Feed.step, running, exhausted]
  · simp only [Feed.step, running, ne_eq, not_false_eq_true, ↓reduceIte, Prod.mk.injEq] at first
    obtain ⟨rfl, rfl⟩ := first
    refine ⟨f₀, ?_, erases⟩
    rw [same]
    simp [Feed.step, running]

/-- A step delivers something from the place itself, and nothing happens where the place is left
out, or it is made there, too. -/
theorem step (erases : f.Erases opener place f₀) (first : f.step = (outcome, g)) :
    (∃ result, outcome = .delivered (result.map some) ∧ opener.Gives place result ∧
        g.Erases opener place f₀) ∨
      ∃ g₀, f₀.step = (outcome, g₀) ∧ g.Erases opener place g₀ := by
  by_cases isRead : f.IsRead
  swap
  · exact .inr (erases.step_of_not_isRead isRead first)
  have same := erases.same
  have isRead₀ : f₀.IsRead := by
    rw [same]
    exact ⟨isRead.running, isRead.unfinished⟩
  obtain ⟨number, merge⟩ := erases.merge
  by_cases idle : f.merge.isEmpty
  · have idle₀ := merge.isEmpty idle
    by_cases nothing : f.backlog = []
    · -- the catalogue is asked
      have nothing₀ : f₀.backlog = [] := by
        rw [same]
        exact nothing
      obtain ⟨outcome₀, erases'⟩ := erases.discover
      rw [isRead.step_of_nothing idle nothing] at first
      rw [first] at outcome₀ erases'
      refine .inr ⟨f₀.discover.2, ?_, erases'⟩
      rw [isRead₀.step_of_nothing idle₀ nothing₀]
      exact Prod.ext outcome₀ rfl
    · -- the next batch is opened
      have waiting₀ : f₀.backlog ≠ [] := by
        rw [same]
        exact nothing
      rw [isRead.step_of_backlog idle nothing] at first
      cases first
      exact .inr ⟨_, isRead₀.step_of_backlog idle₀ waiting₀, erases.openBatch⟩
  · -- something is delivered by what is open, and only here the two feeds may differ
    cases next : f.merge.next f.criteria with
    | mk result m =>
      have answered : result ≠ .ok none := by
        rwa [← Merge.next_eq_none_iff (c := f.criteria), next] at idle
      obtain ⟨r, rfl⟩ := exists_eq_map_some answered
      rw [isRead.step_of_next next answered] at first
      cases first
      rcases merge.next next with ⟨gives, merge'⟩ | ⟨m₀, next₀, merge'⟩
      · exact .inl ⟨r, rfl, gives, same, number, merge'⟩
      · have criteria : f₀.criteria = f.criteria := by rw [same]
        refine .inr ⟨{ f₀ with merge := m₀ }, isRead₀.step_of_next ?_ answered, ?_, number, merge'⟩
        · rwa [criteria]
        · rw [same]

/-! ## Many steps -/

/-- What some steps deliver is what they deliver where the place is left out, with things from the
place itself in between. -/
theorem steps (erases : f.Erases opener place f₀) (steps : f.Steps results g) :
    ∃ kept g₀, f₀.Steps kept g₀ ∧
      Interspersed (fun result => ∃ r, result = r.map some ∧ opener.Gives place r) kept
        results := by
  induction steps generalizing f₀ with
  | refl => exact ⟨[], f₀, .refl f₀, .nil⟩
  | again first _ ih =>
    rcases erases.step first with ⟨r, delivered, -⟩ | ⟨g₀, first₀, erases'⟩
    · cases delivered
    · obtain ⟨kept, h₀, steps₀, interspersed⟩ := ih erases'
      exact ⟨kept, h₀, .again first₀ steps₀, interspersed⟩
  | delivered first _ ih =>
    rcases erases.step first with ⟨r, delivered, gives, erases'⟩ | ⟨g₀, first₀, erases'⟩
    · cases delivered
      obtain ⟨kept, h₀, steps₀, interspersed⟩ := ih erases'
      exact ⟨kept, h₀, steps₀, .insert ⟨r, rfl, gives⟩ interspersed⟩
    · obtain ⟨kept, h₀, steps₀, interspersed⟩ := ih erases'
      exact ⟨_ :: kept, h₀, .delivered first₀ steps₀, .keep interspersed⟩

/-- The same for what is delivered up to the end. -/
theorem exists_run {results : List (Except FeedError Record)} (erases : f.Erases opener place f₀)
    (run : f.Run (results.map (Except.map some) ++ [.ok none]) g) :
    ∃ others g₀, f₀.Run (others.map (Except.map some) ++ [.ok none]) g₀ ∧
      Interspersed (opener.Gives place) others results := by
  have image : ∀ r : Except FeedError Record,
      (∃ r', r.map some = r'.map some ∧ opener.Gives place r') → opener.Gives place r := by
    rintro r ⟨r', same, gives⟩
    cases r <;> cases r' <;> cases same <;> exact gives
  have other : ¬ ∃ r : Except FeedError Record, .ok none = r.map some ∧ opener.Gives place r := by
    rintro ⟨r, same, -⟩
    cases r <;> cases same
  obtain ⟨kept, g₀, steps₀, interspersed⟩ := erases.steps run.steps
  obtain ⟨others, rfl, interspersed'⟩ := interspersed.exists_map_of_map image other
  obtain ⟨h₀, run₀⟩ := steps₀.exists_run
  exact ⟨others, h₀, run₀, interspersed'⟩

end Erases

/-! ## The start -/

/-- Starting a feed does not look at its dumps. -/
theorem start_withMerge (f : Feed κ) (merge : Merge) :
    (f.withMerge merge).start = (f.start.1, f.start.2.withMerge merge) := by
  have phase : (f.withMerge merge).phase = f.phase := rfl
  have criteria : (f.withMerge merge).criteria = f.criteria := rfl
  have live : ∀ condition, (f.withMerge merge).setLiveIf condition =
      (f.setLiveIf condition).withMerge merge := by
    rintro (_ | _) <;> rfl
  unfold start
  rw [phase, criteria, live]
  by_cases allocated : f.phase = .allocated
  swap
  · simp [allocated]
  cases f.criteria.validate with
  | error e => simp [allocated]
  | ok =>
    generalize f.setLiveIf f.criteria.isLive = f'
    have discovery : (f'.withMerge merge).discovery = f'.discovery := rfl
    simp only [allocated, ne_eq, not_true_eq_false, ↓reduceIte, discovery]
    cases f'.discovery.start with
    | mk result discovery => cases result <;> rfl

theorem merge_start (f : Feed κ) : f.start.2.merge = f.merge :=
  congrArg (fun started => started.2.merge) (f.start_withMerge f.merge)

theorem start_withOpener (f : Feed κ) (opener : Opener) :
    (f.withOpener opener).start = (f.start.1, f.start.2.withOpener opener) := by
  rw [withOpener, withOpener, start_withMerge, merge_start]

/-- **Isolation.** Two feeds are set up alike, started, and read to their ends. They open the dumps
in the same way, but for those at one place. Whatever is known of the failures at this place, the
feeds deliver the same records and failures from elsewhere, in the same order. This is what a feed
delivers that cannot open the dumps at the place at all, and each of the two delivers, in between,
what the dumps at the place give. -/
theorem agree_elsewhere {opener' : Opener} {results results' : List (Except FeedError Record)}
    (fresh : f.Fresh) (started : f.start = (.ok (), g))
    (started' : (f.withOpener opener').start = (.ok (), g'))
    (agrees : ∀ chunk, chunk.locator ≠ place → opener' chunk = f.merge.opener chunk)
    (run : g.Run (results.map (Except.map some) ++ [.ok none]) h)
    (run' : g'.Run (results'.map (Except.map some) ++ [.ok none]) h') :
    (∀ isOwn : FeedError → Bool,
      (∀ e, f.merge.opener.Gives place (.error e) ∨ opener'.Gives place (.error e) → isOwn e) →
        results.filter (isElsewhere place isOwn) = results'.filter (isElsewhere place isOwn)) ∧
    ∃ others h₀,
      (g.withOpener (f.merge.opener.without place)).Run
        (others.map (Except.map some) ++ [.ok none]) h₀ ∧
      Interspersed (f.merge.opener.Gives place) others results ∧
      Interspersed (opener'.Gives place) others results' := by
  have merge : g.merge = f.merge := by
    rw [← merge_start f, started]
  have same : g' = g.withOpener opener' := by
    rw [start_withOpener, started] at started'
    exact (congrArg Prod.snd started').symm
  have without : opener'.without place = f.merge.opener.without place := by
    funext chunk
    unfold Opener.without
    split_ifs with there
    · rfl
    · exact agrees chunk there
  have idle : g.merge.isEmpty := by
    rw [merge]
    exact fresh.idle
  have erases : g.Erases f.merge.opener place (g.withOpener (f.merge.opener.without place)) :=
    .withOpener_without idle (by rw [merge])
  have erases' : g'.Erases opener' place (g.withOpener (f.merge.opener.without place)) := by
    rw [same, ← without]
    exact .withOpener_without (f := g.withOpener opener') idle rfl
  obtain ⟨others, h₀, run₀, interspersed⟩ := erases.exists_run run
  obtain ⟨others', h₀', run₀', interspersed'⟩ := erases'.exists_run run'
  -- the feed that leaves the place out delivers one thing only
  obtain rfl := run₀.unique_toEnd run₀'
  refine ⟨fun isOwn known => ?_, others, h₀, run₀, interspersed, interspersed'⟩
  calc results.filter (isElsewhere place isOwn)
    _ = others.filter (isElsewhere place isOwn) :=
      interspersed.filter_eq fun r gives => gives.not_isElsewhere fun e he => known e (.inl he)
    _ = results'.filter (isElsewhere place isOwn) :=
      (interspersed'.filter_eq fun r gives =>
        gives.not_isElsewhere fun e he => known e (.inr he)).symm

/-! ## The torn dump of the sample -/

/-- Another torn dump: it is not damaged, and what it holds is later. -/
def mendedOpener : Opener := fun chunk =>
  if chunk.locator = "torn" then .ok ⟨[⟨.ofInt 1, []⟩, ⟨.ofInt 2, []⟩], none⟩
  else Opener.sample chunk

/-- A record of the sample. -/
def sampleRecord (collector locator : String) (time : Timestamp) (position : Position) : Record :=
  ⟨"ris", collector, .update, 0, time, position, locator, []⟩

theorem gives_error_torn {e : FeedError}
    (gives : Opener.sample.Gives "torn" (.error e) ∨ mendedOpener.Gives "torn" (.error e)) :
    e = .corrupted "torn" "cut off" := by
  rcases gives with gives | gives
  · cases gives with
    | failure there opens damaged =>
      rw [Opener.sample, there] at opens
      cases opens
      cases damaged
      rfl
  · cases gives with
    | failure there opens damaged =>
      rw [mendedOpener, if_pos there] at opens
      cases opens
      cases damaged

/-- The torn dump comes first in one of the feeds, and is spread over the others in the other one;
what else is delivered is the same. -/
theorem agree_elsewhere_sample : ∃ (results results' : List (Except FeedError Record)) (h h' : _),
    sample.start.2.Run (results.map (Except.map some) ++ [.ok none]) h ∧
      (sample.withOpener mendedOpener).start.2.Run
        (results'.map (Except.map some) ++ [.ok none]) h' ∧
      results.filter (isElsewhere "torn" (· = .corrupted "torn" "cut off")) =
        results'.filter (isElsewhere "torn" (· = .corrupted "torn" "cut off")) ∧
      results.length = 5 ∧ results'.length = 4 := by
  have run : ∃ h, sample.start.2.Run
      ([.ok (sampleRecord "rrc00" "torn" ⟨0x8000000000000000⟩ .first),
        .ok (sampleRecord "rrc01" "wide" ⟨0x8000000000000000⟩ .last),
        .ok (sampleRecord "rrc00" "torn" ⟨0⟩ .last), .error (.corrupted "torn" "cut off"),
        .ok (sampleRecord "rrc00" "late" ⟨0⟩ .last)].map (Except.map some) ++ [.ok none]) h :=
    ⟨_, .cons (.of_next 9 (by decide +kernel)) <| .cons (.of_next 9 (by decide +kernel)) <|
      .cons (.of_next 9 (by decide +kernel)) <| .cons (.of_next 9 (by decide +kernel)) <|
      .cons (.of_next 9 (by decide +kernel)) <| .cons (.of_next 9 (by decide +kernel)) <| .nil _⟩
  have run' : ∃ h, (sample.withOpener mendedOpener).start.2.Run
      ([.ok (sampleRecord "rrc01" "wide" ⟨0x8000000000000000⟩ .last),
        .ok (sampleRecord "rrc00" "torn" (.ofInt 1) .first),
        .ok (sampleRecord "rrc00" "torn" (.ofInt 2) .last),
        .ok (sampleRecord "rrc00" "late" ⟨0⟩ .last)].map (Except.map some) ++ [.ok none]) h :=
    ⟨_, .cons (.of_next 9 (by decide +kernel)) <| .cons (.of_next 9 (by decide +kernel)) <|
      .cons (.of_next 9 (by decide +kernel)) <| .cons (.of_next 9 (by decide +kernel)) <|
      .cons (.of_next 9 (by decide +kernel)) <| .nil _⟩
  obtain ⟨h, run⟩ := run
  obtain ⟨h', run'⟩ := run'
  have fresh : sample.Fresh := ⟨rfl, rfl, rfl, rfl, rfl, rfl⟩
  have started : sample.start = (.ok (), sample.start.2) := rfl
  have started' : (sample.withOpener mendedOpener).start =
      (.ok (), (sample.withOpener mendedOpener).start.2) := rfl
  have agrees : ∀ chunk, chunk.locator ≠ "torn" →
      mendedOpener chunk = sample.merge.opener chunk := fun chunk elsewhere => if_neg elsewhere
  have agree := (agree_elsewhere fresh started started' agrees run run').1
  exact ⟨_, _, h, h', run, run', agree _ fun e gives => decide_eq_true (gives_error_torn gives),
    rfl, rfl⟩

end Feed

end RouteFeed
