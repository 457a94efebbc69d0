import RouteFeed.Feed.Basic

/-!
# Runs of a feed

Asking a feed for the next record takes some steps, of which only the last one delivers. How many
steps it is allowed makes no difference to what is returned, as long as they are enough. A *run* is
what asking again and again leads to. Two runs of the same feed agree as far as the shorter one
goes.

## Main definitions

* `Feed.Returns` — what a question returns, and the feed afterwards
* `Feed.Run` — what several questions return, one after the other
* `Feed.Steps` — what several steps deliver, whether the last one delivers or not
* `Feed.IsOver` — the end has been reached

## Main results

* `Feed.Returns.unique` — a question returns one thing only
* `Feed.Steps.trans_run`, `Feed.Steps.exists_run` — steps up to a delivery are a run
* `Feed.Run.prefix_of_length_le` — the shorter of two runs is the start of the longer one
* `Feed.Run.unique_toEnd` — up to its end a feed delivers one thing only
-/

namespace RouteFeed.Feed

variable {κ : Type} [Catalogue κ]

/-- A question returns a record, a failure or the end. -/
def Returns (f : Feed κ) (result : Except FeedError (Option Record)) (g : Feed κ) : Prop :=
  ∃ steps, f.next steps = (some result, g)

/-- Questions return some results, one after the other. -/
inductive Run : Feed κ → List (Except FeedError (Option Record)) → Feed κ → Prop where
  /-- No question is asked. -/
  | nil (f : Feed κ) : Run f [] f
  /-- The first question returns a result, and the others go on from there. -/
  | cons {f g h : Feed κ} {result : Except FeedError (Option Record)}
      {results : List (Except FeedError (Option Record))} (first : f.Returns result g)
      (others : Run g results h) : Run f (result :: results) h

/-- Steps deliver some results. -/
inductive Steps : Feed κ → List (Except FeedError (Option Record)) → Feed κ → Prop where
  /-- No step is made. -/
  | refl (f : Feed κ) : Steps f [] f
  /-- The first step delivers nothing. -/
  | again {f g h : Feed κ} {delay? : Option Duration}
      {results : List (Except FeedError (Option Record))} (first : f.step = (.again delay?, g))
      (others : Steps g results h) : Steps f results h
  /-- The first step delivers a result. -/
  | delivered {f g h : Feed κ} {result : Except FeedError (Option Record)}
      {results : List (Except FeedError (Option Record))}
      (first : f.step = (.delivered result, g)) (others : Steps g results h) :
      Steps f (result :: results) h

variable {f g g' h : Feed κ} {result result' : Except FeedError (Option Record)}
  {results results' : List (Except FeedError (Option Record))} {delay? : Option Duration}

/-! ## One question -/

theorem Returns.of_step (first : f.step = (.delivered result, g)) : f.Returns result g := by
  refine ⟨1, ?_⟩
  rw [next, first]

theorem Returns.of_next (steps : Nat) (returned : (f.next steps).1 = some result) :
    f.Returns result (f.next steps).2 :=
  ⟨steps, Prod.ext returned rfl⟩

theorem Returns.again (first : f.step = (.again delay?, g)) (h : g.Returns result g') :
    f.Returns result g' := by
  obtain ⟨steps, returned⟩ := h
  refine ⟨steps + 1, ?_⟩
  rw [next, first]
  exact returned

/-- A question returns what the first step delivers, or else what it returns after that step. -/
theorem Returns.cases (h : f.Returns result g') : f.step = (.delivered result, g') ∨
    ∃ delay? g, f.step = (.again delay?, g) ∧ g.Returns result g' := by
  obtain ⟨steps, returned⟩ := h
  cases steps with
  | zero => cases returned
  | succ steps =>
    rw [next] at returned
    cases hs : f.step with
    | mk outcome g =>
      rw [hs] at returned
      cases outcome with
      | delivered result' =>
        cases returned
        exact .inl rfl
      | again delay? => exact .inr ⟨delay?, g, rfl, steps, returned⟩

theorem Returns.unique (h : f.Returns result g) (h' : f.Returns result' g') :
    result = result' ∧ g = g' := by
  obtain ⟨steps, returned⟩ := h
  induction steps generalizing f with
  | zero => cases returned
  | succ steps ih =>
    rw [next] at returned
    rcases h'.cases with first | ⟨delay?, g₁, first, later⟩
    · rw [first] at returned
      cases returned
      exact ⟨rfl, rfl⟩
    · rw [first] at returned
      exact ih later returned

/-! ## Several questions -/

/-- A step that delivers nothing comes before whatever is returned. -/
theorem Run.again (first : f.step = (.again delay?, g)) (h : g.Run results g')
    (some_result : results ≠ []) : f.Run results g' := by
  cases h with
  | nil => exact absurd rfl some_result
  | cons returned others => exact .cons (.again first returned) others

theorem Run.trans (first : f.Run results g) (second : g.Run results' h) :
    f.Run (results ++ results') h := by
  induction first with
  | nil => exact second
  | cons returned _ ih => exact .cons returned (ih second)

/-- A run may be interrupted anywhere. -/
theorem Run.exists_of_append (run : f.Run (results ++ results') h) :
    ∃ g, f.Run results g ∧ g.Run results' h := by
  induction results generalizing f with
  | nil => exact ⟨f, .nil f, run⟩
  | cons result results ih =>
    cases run with
    | cons returned others =>
      obtain ⟨g, first, second⟩ := ih others
      exact ⟨g, .cons returned first, second⟩

/-- Steps come before a run that is not empty. -/
theorem Steps.trans_run (first : f.Steps results g) (second : g.Run results' h)
    (some_result : results' ≠ []) : f.Run (results ++ results') h := by
  induction first with
  | refl => exact second
  | again step _ ih => exact (ih second).again step (by simp [some_result])
  | delivered step _ ih => exact .cons (.of_step step) (ih second)

theorem Steps.trans (first : f.Steps results g) (second : g.Steps results' h) :
    f.Steps (results ++ results') h := by
  induction first with
  | refl => exact second
  | again step _ ih => exact .again step (ih second)
  | delivered step _ ih => exact .delivered step (ih second)

/-- The shorter of two runs is the start of the longer one. -/
theorem Run.prefix_of_length_le (short : f.Run results g) (long : f.Run results' g')
    (le : results.length ≤ results'.length) :
    ∃ more, results' = results ++ more ∧ g.Run more g' := by
  induction short generalizing results' with
  | nil => exact ⟨results', rfl, long⟩
  | cons first _ ih =>
    cases long with
    | nil => simp at le
    | cons first' others' =>
      obtain ⟨rfl, rfl⟩ := first.unique first'
      obtain ⟨more, rfl, rest⟩ := ih others' (Nat.le_of_succ_le_succ le)
      exact ⟨more, rfl, rest⟩

/-- What a question returns is delivered by the last of some steps, and by no other. -/
theorem Returns.exists_steps (returned : f.Returns result g) :
    ∃ h, f.Steps [] h ∧ h.step = (.delivered result, g) := by
  obtain ⟨steps, returned⟩ := returned
  induction steps generalizing f with
  | zero => cases returned
  | succ steps ih =>
    rw [next] at returned
    cases first : f.step with
    | mk outcome g' =>
      rw [first] at returned
      cases outcome with
      | delivered result' =>
        cases returned
        exact ⟨f, .refl f, first⟩
      | again delay? =>
        obtain ⟨h, others, last⟩ := ih returned
        exact ⟨h, .again first others, last⟩

theorem Returns.steps (returned : f.Returns result g) : f.Steps [result] g := by
  obtain ⟨h, before, last⟩ := returned.exists_steps
  exact before.trans (.delivered last (.refl g))

theorem Run.steps (run : f.Run results g) : f.Steps results g := by
  induction run with
  | nil f => exact .refl f
  | cons first _ ih => exact first.steps.trans ih

/-- Steps, as far as the last that delivers, are a run. -/
theorem Steps.exists_run (steps : f.Steps results g) : ∃ h, f.Run results h := by
  induction steps with
  | refl f => exact ⟨f, .nil f⟩
  | @again f _ _ _ results first _ ih =>
    obtain ⟨h, run⟩ := ih
    by_cases nothing : results = []
    · subst nothing
      exact ⟨f, .nil f⟩
    · exact ⟨h, run.again first nothing⟩
  | delivered first _ ih =>
    obtain ⟨h, run⟩ := ih
    exact ⟨h, .cons (.of_step first) run⟩

/-! ## Up to the end -/

/-- Where the end stands first in a list is known. -/
theorem eq_of_map_some_append {rs rs' : List (Except FeedError Record)}
    (same : rs'.map (Except.map some) ++ [Except.ok none] =
      rs.map (Except.map some) ++ [Except.ok none] ++ results) : rs = rs' := by
  induction rs generalizing rs' with
  | nil =>
    cases rs' with
    | nil => rfl
    | cons r' rs' => cases r' <;> simp [Except.map] at same
  | cons r rs ih =>
    cases rs' with
    | nil => cases r <;> simp [Except.map] at same
    | cons r' rs' =>
      simp only [List.map_cons, List.cons_append, List.cons.injEq] at same
      obtain ⟨first, others⟩ := same
      rw [ih others]
      cases r <;> cases r' <;> simp_all [Except.map]

/-- What a feed delivers up to its end is always the same. -/
theorem Run.unique_toEnd {rs rs' : List (Except FeedError Record)}
    (run : f.Run (rs.map (Except.map some) ++ [.ok none]) g)
    (run' : f.Run (rs'.map (Except.map some) ++ [.ok none]) g') : rs = rs' := by
  rcases Nat.le_total rs.length rs'.length with le | le
  · obtain ⟨more, same, -⟩ := run.prefix_of_length_le run' (by simpa using le)
    exact eq_of_map_some_append same
  · obtain ⟨more, same, -⟩ := run'.prefix_of_length_le run (by simpa using le)
    exact (eq_of_map_some_append same).symm

/-- The end of a feed has been reached. -/
structure IsOver (f : Feed κ) : Prop where
  running : f.phase = .running
  exhausted : f.exhausted

theorem IsOver.step_eq (atEnd : f.IsOver) : f.step = (.delivered (.ok none), f) := by
  simp [Feed.step, atEnd.running, atEnd.exhausted]

theorem returns_of_exhausted (running : f.phase = .running) (exhausted : f.exhausted) :
    f.Returns (.ok none) f := by
  refine .of_step ?_
  simp [step, running, exhausted]

/-- A feed whose end has been reached returns nothing else any more. -/
theorem Run.of_exhausted (running : f.phase = .running) (exhausted : f.exhausted)
    (h : f.Run results g) : (∀ result ∈ results, result = .ok none) ∧ g = f := by
  induction h with
  | nil => simp
  | cons first _ ih =>
    obtain ⟨rfl, rfl⟩ := (returns_of_exhausted running exhausted).unique first
    obtain ⟨nothing, same⟩ := ih running exhausted
    exact ⟨List.forall_mem_cons.mpr ⟨rfl, nothing⟩, same⟩

end RouteFeed.Feed
