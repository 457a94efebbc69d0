import RouteFeed.Proofs.Catalogue.Alike
import RouteFeed.Proofs.Feed.TimeOrder

/-!
# The same feed again

Two feeds in batch mode are set up alike, and their catalogues answer alike. Then they make the same
steps: what they remember is the same, though their catalogues are not. So a feed that reads from a
table or from a database does not depend on the order of the rows, as long as no two chunks are
equal in all that catalogues sort by.

For a database this needs that it holds what it should. A row with a time of publication that is no
number makes every question fail that selects it, and a feed without this row goes on.

## Main definitions

* `Feed.Mirrors` — two feeds that remember the same and have catalogues of their own

## Main results

* `Feed.Mirrors.step` — one step
* `Feed.Mirrors.exists_run` — any number of questions
* `Feed.reproducible` — feeds of reordered catalogues
-/

namespace RouteFeed

namespace Feed

variable {κ : Type} [Catalogue κ] {c : Criteria} {f f' g h : Feed κ} {k k' : κ} {outcome : Step}
  {results : List (Except FeedError (Option Record))}

/-- Two feeds with some criteria remember the same, and each has a catalogue of its own. -/
structure Mirrors (c : Criteria) (k k' : κ) (f f' : Feed κ) : Prop where
  asks : f.Asks k
  asks' : f'.Asks k'
  criteria : f.criteria = c
  criteria' : f'.criteria = c
  merge : f'.merge = f.merge
  backlog : f'.backlog = f.backlog
  cursor : f'.discovery.cursor = f.discovery.cursor
  admission : f'.discovery.admission = f.discovery.admission

namespace Mirrors

/-! ## One step -/

omit [Catalogue κ] in
theorem openBatch (mirrors : Mirrors c k k' f f') : Mirrors c k k' f.openBatch f'.openBatch where
  asks := { mirrors.asks with }
  asks' := { mirrors.asks' with }
  criteria := mirrors.criteria
  criteria' := mirrors.criteria'
  merge := by
    unfold Feed.openBatch
    rw [mirrors.merge, mirrors.criteria, mirrors.criteria', mirrors.backlog]
  backlog := by
    unfold Feed.openBatch
    rw [mirrors.backlog]
  cursor := mirrors.cursor
  admission := mirrors.admission

omit [Catalogue κ] in
theorem withMerge (mirrors : Mirrors c k k' f f') (m : Merge) :
    Mirrors c k k' { f with merge := m } { f' with merge := m } :=
  { mirrors with
    asks := { mirrors.asks with }
    asks' := { mirrors.asks' with }
    merge := rfl }

/-- Both catalogues are asked behind the same cursor and answer alike, so the feeds go on alike, or
both are over. -/
theorem discover (mirrors : Mirrors c k k' f f') (alike : Catalogue.Alike c k k') :
    ∃ outcome g g', f.discover = (outcome, g) ∧ f'.discover = (outcome, g') ∧
      (Mirrors c k k' g g' ∨ g.IsOver ∧ g'.IsOver) := by
  have criteria := mirrors.criteria
  have criteria' := mirrors.criteria'
  have cursor := mirrors.cursor
  have admission := mirrors.admission
  cases answered : (Catalogue.query k c f.discovery.cursor).1 with
  | error e =>
    have query : Catalogue.query k f.criteria f.discovery.cursor = (.error e, k) := by
      rw [criteria]
      exact Prod.ext answered (alike.unchanged _)
    have query' : Catalogue.query k' f'.criteria f'.discovery.cursor = (.error e, k') := by
      rw [criteria', cursor]
      exact Prod.ext ((alike.same _).trans answered) (alike.unchanged' _)
    obtain ⟨g, asked, asks, c₁, m₁, b₁, u₁, a₁⟩ := mirrors.asks.discover_of_failure query
    obtain ⟨g', asked', asks', c₂, m₂, b₂, u₂, a₂⟩ := mirrors.asks'.discover_of_failure query'
    refine ⟨_, g, g', asked, asked', .inl ⟨asks, asks', c₁.trans criteria, c₂.trans criteria', ?_,
      ?_, ?_, ?_⟩⟩
    · rw [m₁, m₂, mirrors.merge]
    · rw [b₁, b₂, mirrors.backlog]
    · rw [u₁, u₂, cursor]
    · rw [a₁, a₂, admission]
  | ok answer =>
    have query : Catalogue.query k f.criteria f.discovery.cursor = (.ok answer, k) := by
      rw [criteria]
      exact Prod.ext answered (alike.unchanged _)
    have query' : Catalogue.query k' f'.criteria f'.discovery.cursor = (.ok answer, k') := by
      rw [criteria', cursor]
      exact Prod.ext ((alike.same _).trans answered) (alike.unchanged' _)
    cases offered : f.discovery.admission.offerAll c.ribPeriod? answer.chunks with
    | mk admitted remembered =>
      have offer : f.discovery.admission.offerAll f.criteria.ribPeriod? answer.chunks =
          (admitted, remembered) := by rw [criteria, offered]
      have offer' : f'.discovery.admission.offerAll f'.criteria.ribPeriod? answer.chunks =
          (admitted, remembered) := by rw [criteria', admission, offered]
      by_cases nothing : admitted = []
      · obtain ⟨g, asked, running, exhausted⟩ :=
          mirrors.asks.discover_of_nothing query (by rw [offer, nothing])
        obtain ⟨g', asked', running', exhausted'⟩ :=
          mirrors.asks'.discover_of_nothing query' (by rw [offer', nothing])
        exact ⟨_, g, g', asked, asked', .inr ⟨⟨running, exhausted⟩, ⟨running', exhausted'⟩⟩⟩
      · obtain ⟨g, asked, asks, c₁, m₁, b₁, u₁, a₁⟩ :=
          mirrors.asks.discover_of_admitted query nothing offer
        obtain ⟨g', asked', asks', c₂, m₂, b₂, u₂, a₂⟩ :=
          mirrors.asks'.discover_of_admitted query' nothing offer'
        refine ⟨_, _, _, asked, asked', .inl (openBatch ⟨asks, asks', c₁.trans criteria,
          c₂.trans criteria', ?_, ?_, u₂.trans u₁.symm, a₂.trans a₁.symm⟩)⟩
        · rw [m₁, m₂, mirrors.merge]
        · rw [b₁, b₂, mirrors.backlog]

theorem step (mirrors : Mirrors c k k' f f') (alike : Catalogue.Alike c k k') :
    ∃ outcome g g', f.step = (outcome, g) ∧ f'.step = (outcome, g') ∧
      (Mirrors c k k' g g' ∨ g.IsOver ∧ g'.IsOver) := by
  have isRead := mirrors.asks.toIsRead
  have isRead' := mirrors.asks'.toIsRead
  by_cases idle : f.merge.isEmpty
  · have idle' : f'.merge.isEmpty := by rwa [mirrors.merge]
    by_cases nothing : f.backlog = []
    · have nothing' : f'.backlog = [] := by rwa [mirrors.backlog]
      rw [isRead.step_of_nothing idle nothing, isRead'.step_of_nothing idle' nothing']
      exact mirrors.discover alike
    · have waiting' : f'.backlog ≠ [] := by rwa [mirrors.backlog]
      exact ⟨_, _, _, isRead.step_of_backlog idle nothing, isRead'.step_of_backlog idle' waiting',
        .inl mirrors.openBatch⟩
  · obtain ⟨result, m, next, answered⟩ := Merge.exists_next_of_not_isEmpty idle f.criteria
    have next' : f'.merge.next f'.criteria = (result, m) := by
      rw [mirrors.merge, mirrors.criteria', ← mirrors.criteria, next]
    exact ⟨_, _, _, isRead.step_of_next next answered, isRead'.step_of_next next' answered,
      .inl (mirrors.withMerge m)⟩

end Mirrors

/-! ## Any number of steps -/

theorem IsOver.exists_steps (atEnd : f.IsOver) (atEnd' : f'.IsOver) (steps : f.Steps results h) :
    ∃ h', f'.Steps results h' := by
  induction steps with
  | refl => exact ⟨f', .refl f'⟩
  | again first _ _ =>
    rw [atEnd.step_eq] at first
    cases first
  | delivered first _ ih =>
    rw [atEnd.step_eq] at first
    cases first
    obtain ⟨h', others⟩ := ih atEnd
    exact ⟨h', .delivered atEnd'.step_eq others⟩

theorem Mirrors.exists_steps (mirrors : Mirrors c k k' f f') (alike : Catalogue.Alike c k k')
    (steps : f.Steps results h) : ∃ h', f'.Steps results h' := by
  induction steps generalizing f' with
  | refl => exact ⟨f', .refl f'⟩
  | @again _ _ h _ results first others ih =>
    obtain ⟨_, _, g', step, step', onward⟩ := mirrors.step alike
    cases first.symm.trans step
    obtain ⟨h', others'⟩ : ∃ h', g'.Steps results h' := by
      rcases onward with mirrors' | ⟨atEnd, atEnd'⟩
      · exact ih mirrors'
      · exact atEnd.exists_steps atEnd' others
    exact ⟨h', .again step' others'⟩
  | @delivered _ _ h _ results first others ih =>
    obtain ⟨_, _, g', step, step', onward⟩ := mirrors.step alike
    cases first.symm.trans step
    obtain ⟨h', others'⟩ : ∃ h', g'.Steps results h' := by
      rcases onward with mirrors' | ⟨atEnd, atEnd'⟩
      · exact ih mirrors'
      · exact atEnd.exists_steps atEnd' others
    exact ⟨h', .delivered step' others'⟩

/-- What one of the feeds returns, the other one returns, too. -/
theorem Mirrors.exists_run (mirrors : Mirrors c k k' f f') (alike : Catalogue.Alike c k k')
    (run : f.Run results h) : ∃ h', f'.Run results h' := by
  obtain ⟨_, steps⟩ := mirrors.exists_steps alike run.steps
  exact steps.exists_run

omit [Catalogue κ] in
theorem Mirrors.symm (mirrors : Mirrors c k k' f f') : Mirrors c k' k f' f :=
  ⟨mirrors.asks', mirrors.asks, mirrors.criteria', mirrors.criteria, mirrors.merge.symm,
    mirrors.backlog.symm, mirrors.cursor.symm, mirrors.admission.symm⟩

/-! ## From the start on -/

theorem criteria_start (f : Feed κ) : f.start.2.criteria = f.criteria := by
  unfold start
  split_ifs
  · rfl
  · cases f.criteria.validate with
    | error e => rfl
    | ok =>
      have same : (f.setLiveIf f.criteria.isLive).criteria = f.criteria := by
        unfold setLiveIf
        split_ifs <;> rfl
      dsimp only
      cases (f.setLiveIf f.criteria.isLive).discovery.start with
      | mk result d => cases result <;> exact same

/-- **The same feed again.** Two feeds in batch mode have the same criteria and open chunks in the
same way. They read from two tables, or from two databases, with the same well-formed rows in any
order, of which no two are equal in time, kind, collector and place; and a database holds what it
should in all rows that are selected. Then the feeds return the same for any number of questions,
and every question returns. -/
theorem reproducible {f f' g g' : Feed Source} {k k' : Source} (fresh : f.Fresh)
    (fresh' : f'.Fresh) (started : f.start = (.ok (), g)) (started' : f'.start = (.ok (), g'))
    (batch : g.isLive = false) (batch' : g'.isLive = false)
    (current : g.discovery.registry.current? = some k)
    (current' : g'.discovery.registry.current? = some k') (criteria : f'.criteria = f.criteria)
    (merge : f'.merge = f.merge) (reordered : k.Reordered k') (typed : k.IsTyped f.criteria)
    (typed' : k'.IsTyped f.criteria) :
    (∀ results, (∃ h, g.Run results h) ↔ ∃ h, g'.Run results h) ∧
      ∀ results h, g.Run results h → ∃ result h', h.Returns result h' := by
  obtain ⟨asks, sameMerge, backlog, cursor, admission⟩ :=
    fresh.asks_of_start started batch current
  obtain ⟨asks', sameMerge', backlog', cursor', admission'⟩ :=
    fresh'.asks_of_start started' batch' current'
  have kept := f.criteria_start
  have kept' := f'.criteria_start
  rw [started] at kept
  rw [started', criteria] at kept'
  have mirrors : Mirrors f.criteria k k' g g' :=
    ⟨asks, asks', kept, kept', by rw [sameMerge, sameMerge', merge], by rw [backlog, backlog'],
      by rw [cursor, cursor'], by rw [admission, admission']⟩
  have alike := reordered.alike typed typed'
  refine ⟨fun results => ⟨?_, ?_⟩, fun results h run => ?_⟩
  · rintro ⟨h, run⟩
    exact mirrors.exists_run alike run
  · rintro ⟨h, run⟩
    exact mirrors.symm.exists_run alike.symm run
  · have steady : Catalogue.Steady k := by
      cases reordered with
      | table => exact Source.steady_table _
      | database => exact Source.steady_database _
    have idle : g.merge.isEmpty := by
      rw [sameMerge]
      exact fresh.idle
    exact asks.exists_returns_of_run steady idle backlog cursor run

/-! ## Feeds of a database -/

/-- A database file by name, before it is opened. -/
def sampleFile (db : Database) : DatabaseFile where
  archive := { files := [("dumps.db", .database db)] }
  settings := [⟨"db-file", "", none, some "dumps.db", true⟩]

/-- A feed of the database. -/
def feedOf (db : Database) : Feed Source :=
  (ofList [.database (sampleFile db)] sampleOpener).setInterval ⟨0, some 100⟩

theorem fresh_feedOf (db : Database) : (feedOf db).Fresh := ⟨rfl, rfl, rfl, rfl, rfl, rfl⟩

theorem start_feedOf (db : Database) : (feedOf db).start = (.ok (), (feedOf db).start.2) := rfl

theorem current_feedOf (db : Database) : (feedOf db).start.2.discovery.registry.current? =
    some (.database { sampleFile db with open? := some db }) := rfl

/-- A database that describes the two dumps. -/
def sampleDatabase : Database :=
  .ofEntries .typed [.mk (.text "early") (.text "ris") (.text "rrc00") (.text "update") (.integer 0)
      (.integer 10) (.integer 2),
    .mk (.text "late") (.text "ris") (.text "rrc01") (.text "ribs") (.integer 10) (.integer 0)
      (.integer 1)]

/-- The same rows in another order, and a row of an unknown kind. -/
def reorderedDatabase : Database :=
  .ofEntries .typed [.mk (.text "late") (.text "ris") (.text "rrc01") (.text "rib") (.integer 10)
      (.integer 0) (.integer 1),
    .mk (.text "other") (.text "ris") (.text "rrc01") (.text "table") (.integer 10) (.integer 0)
      (.integer 1),
    .mk (.text "early") (.text "ris") (.text "rrc00") (.text "update") (.integer 0) (.integer 10)
      (.integer 2)]

/-- The rows of the sample, and one with a time of publication that is no number. -/
def tornDatabase : Database :=
  .ofEntries .typed [.mk (.text "early") (.text "ris") (.text "rrc00") (.text "update") (.integer 0)
      (.integer 10) (.integer 2),
    .mk (.text "late") (.text "ris") (.text "rrc01") (.text "ribs") (.integer 10) (.integer 0)
      (.integer 1),
    .mk (.text "other") (.text "ris") (.text "rrc01") (.text "rib") (.integer 10) (.integer 0)
      (.text "soon")]

theorem isTyped_sampleDatabase : (Source.database
    { sampleFile sampleDatabase with open? := some sampleDatabase }).IsTyped
      (feedOf sampleDatabase).criteria := by
  rintro db ⟨⟩
  exact ⟨_, rfl, by decide +kernel⟩

theorem isTyped_reorderedDatabase : (Source.database
    { sampleFile reorderedDatabase with open? := some reorderedDatabase }).IsTyped
      (feedOf sampleDatabase).criteria := by
  rintro db ⟨⟩
  exact ⟨_, rfl, by decide +kernel⟩

theorem reproducible_sampleDatabase :
    (∀ results, (∃ h, (feedOf sampleDatabase).start.2.Run results h) ↔
      ∃ h, (feedOf reorderedDatabase).start.2.Run results h) ∧
    ∀ results h, (feedOf sampleDatabase).start.2.Run results h → ∃ result h', h.Returns result h' :=
  reproducible (fresh_feedOf _) (fresh_feedOf _) (start_feedOf _) (start_feedOf _) rfl rfl
    (current_feedOf _) (current_feedOf _) rfl rfl
    (.database rfl rfl ⟨by decide +kernel, by decide +kernel⟩) isTyped_sampleDatabase
    isTyped_reorderedDatabase

/-- Without knowing that the databases hold what they should, the feeds may differ: one of them is
read to its end, and every question of the other one fails. -/
theorem not_reproducible_of_torn : ¬ ∀ (f f' g g' : Feed Source) (k k' : Source),
    f.Fresh → f'.Fresh → f.start = (.ok (), g) → f'.start = (.ok (), g') →
    g.isLive = false → g'.isLive = false → g.discovery.registry.current? = some k →
    g'.discovery.registry.current? = some k' → f'.criteria = f.criteria → f'.merge = f.merge →
    k.Reordered k' → ∀ results, (∃ h, g.Run results h) ↔ ∃ h, g'.Run results h := by
  intro same
  have iff := same _ _ _ _ _ _ (fresh_feedOf sampleDatabase) (fresh_feedOf tornDatabase)
    (start_feedOf _) (start_feedOf _) rfl rfl (current_feedOf _) (current_feedOf _) rfl rfl
    (.database rfl rfl ⟨by decide +kernel, by decide +kernel⟩)
  obtain ⟨asks, -, backlog, cursor, -⟩ :=
    (fresh_feedOf sampleDatabase).asks_of_start (start_feedOf _) rfl (current_feedOf _)
  obtain ⟨rows, answered, -⟩ := DatabaseFile.exists_answerFrom_eq Cursor.time_start
    (isTyped_sampleDatabase _ rfl)
  rw [selectPublished_eq Cursor.time_start] at answered
  obtain ⟨results, h, toEnd, -⟩ :=
    asks.exists_toEnd (Source.steady_database _) rfl backlog cursor answered
  obtain ⟨h', run⟩ := (iff _).mp ⟨h, toEnd⟩
  -- the end is not a failure
  obtain ⟨asks', -, backlog', cursor', -⟩ :=
    (fresh_feedOf tornDatabase).asks_of_start (start_feedOf _) rfl (current_feedOf _)
  have fails := asks'.fails_of_error (Source.steady_database _) rfl backlog' cursor'
    (e := .unavailable "sqlite error") (by decide +kernel)
  have ended := (fails.of_run run).1 (.ok none) (by simp)
  cases ended

end Feed

end RouteFeed
