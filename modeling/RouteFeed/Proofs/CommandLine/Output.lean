import RouteFeed.Catalogue.Replay
import RouteFeed.CommandLine.Run
import RouteFeed.Proofs.CommandLine.Lines
import RouteFeed.Proofs.Feed.Reading
import RouteFeed.Proofs.Feed.TimeOrder

/-!
# Output follows the readers

A run of the command line asks the feed by itself, and decides by itself what to make of a failure.
Still its output is what the readers of records and of elements give: one line for each record, or
one line for each element with the collector of its record. A run comes to its end just if the
readers do, and fails just if the last thing that the feed returns is a failure that costs more than
one dump. Where they do not come to an end the output begins with the lines of what is read first.

## Main definitions

* `Gives` — what a way of reading gives first
* `Feed.EndsWith` — the results of a feed up to a final one
* `Reports` — what a run reports
* `FollowsReaders` — the output of a run is what the readers give

## Main results

* `Reading.exists_endsWith`, `ElementReading.exists_readsThrough` — why a reader comes to its end
* `exists_printAll_iff` — what is reported, by what the feed returns
* `run_follows_readers` — every run that starts a feed
-/

namespace RouteFeed

theorem Outcome.item_ne_unsettled {α : Type} (x : α) : Outcome.item x ≠ .unsettled := by
  intro same
  cases same

theorem Outcome.ended_ne_unsettled {α : Type} : (Outcome.ended : Outcome α) ≠ .unsettled := by
  intro same
  cases same

/-! ## What is read first -/

section Gives

variable {σ α : Type} {ask : ℕ → ℕ → σ → Outcome α × σ} {r r' s : σ} {xs ys : List α}

/-- A way of reading that is asked again and again gives some things first. -/
inductive Gives (ask : ℕ → ℕ → σ → Outcome α × σ) : σ → List α → σ → Prop where
  /-- It has not been asked. -/
  | nil (r : σ) : Gives ask r [] r
  /-- It gives something, and is asked again. -/
  | item {r r' s : σ} {x : α} {xs : List α} (steps tries : ℕ)
      (first : ask steps tries r = (.item x, r')) (others : Gives ask r' xs s) :
      Gives ask r (x :: xs) s

theorem Gives.readsThrough (gives : Gives ask r xs r') (reads : ReadsThrough ask r' ys s) :
    ReadsThrough ask r (xs ++ ys) s := by
  induction gives with
  | nil => exact reads
  | item steps tries first _ ih => exact .item steps tries first (ih reads)

/-- Nothing is given on the way from a state to another one in which the same is answered. -/
theorem Gives.of_answers (gives : Gives ask r' xs s)
    (answers : ∀ ⦃steps tries x t⦄, ask steps tries r' = (.item x, t) →
      ∃ steps' tries', ask steps' tries' r = (.item x, t)) : ∃ s', Gives ask r xs s' := by
  cases gives with
  | nil => exact ⟨r, .nil r⟩
  | item steps tries first others =>
    obtain ⟨steps', tries', first'⟩ := answers first
    exact ⟨s, .item steps' tries' first' others⟩

end Gives

variable {κ : Type} [Catalogue κ] {f g h : Feed κ}
  {results results' : List (Except FeedError (Option Record))}
  {last last' : Except FeedError (Option Record)}

/-! ## Results up to a final one -/

/-- A feed returns some results, and then a final one. -/
structure Feed.EndsWith (f : Feed κ) (results : List (Except FeedError (Option Record)))
    (last : Except FeedError (Option Record)) (g : Feed κ) : Prop where
  /-- These are what is returned. -/
  run : f.Run (results ++ [last]) g
  /-- Before the last one a feed may be asked again. -/
  goesOn : ∀ result ∈ results, ¬ Reading.isFinal result
  /-- After the last one it is not. -/
  final : Reading.isFinal last

/-- Results after which a feed is asked again come before. -/
theorem Feed.EndsWith.of_run (first : f.Run results g)
    (goesOn : ∀ result ∈ results, ¬ Reading.isFinal result) (ends : g.EndsWith results' last h) :
    f.EndsWith (results ++ results') last h where
  run := by
    rw [List.append_assoc]
    exact first.trans ends.run
  goesOn result mem := (List.mem_append.mp mem).elim (goesOn result) (ends.goesOn result)
  final := ends.final

/-- Only one list of results ends with a final one. -/
theorem Feed.EndsWith.unique {g' : Feed κ} (ends : f.EndsWith results last g)
    (ends' : f.EndsWith results' last' g') : results = results' ∧ last = last' := by
  wlog le : results.length ≤ results'.length generalizing results results' last last' g g'
  · obtain ⟨same, same'⟩ := this ends' ends (Nat.le_of_not_le le)
    exact ⟨same.symm, same'.symm⟩
  obtain ⟨more, split, -⟩ := ends.run.prefix_of_length_le ends'.run (by simpa using le)
  rcases List.eq_nil_or_concat more with rfl | ⟨more, x, rfl⟩
  · rw [List.append_nil] at split
    obtain ⟨same, same'⟩ := List.append_inj' split rfl
    exact ⟨same.symm, (List.cons.inj same').1.symm⟩
  · -- the final result would be one of those after which the feed is asked again
    rw [List.concat_eq_append, ← List.append_assoc] at split
    have early : last ∈ results' := by simp [(List.append_inj' split rfl).1]
    exact absurd ends.final (ends'.goesOn last early)

/-- The records among what questions return are those among what is delivered. -/
theorem recordsOf_deliveriesIn (results : List (Except FeedError (Option Record))) :
    recordsOf (deliveriesIn results) = recordsIn results := by
  induction results with
  | nil => rfl
  | cons result results ih =>
    rcases result with e | _ | record
    · exact ih
    · exact ih
    · exact congrArg (record :: ·) ih

/-- A final result is no record. -/
theorem recordsIn_append_final (final : Reading.isFinal last) :
    recordsIn (results ++ [last]) = recordsIn results := by
  rw [recordsIn_append]
  rcases last with e | _ | record
  · exact List.append_nil _
  · exact List.append_nil _
  · cases final

/-! ## What the readers give -/

namespace Reading

variable {r r' : Reading κ} {records : List Record}

/-- The next record is what the feed returns after failures that cost one dump each; and the reading
comes to its end by a final result after such failures. -/
theorem exists_run_of_nextRecord {steps tries : ℕ} {outcome : Outcome Record}
    (asked : (⟨f, false⟩ : Reading κ).nextRecord steps tries = (outcome, r'))
    (settled : outcome ≠ .unsettled) : ∃ failures last h, f.Run (failures ++ [last]) h ∧
      (∀ result ∈ failures, ¬ isFinal result) ∧ recordsIn failures = [] ∧
      ((∃ record, outcome = .item record ∧ last = .ok (some record) ∧ r' = ⟨h, false⟩) ∨
        outcome = .ended ∧ isFinal last ∧ r' = ⟨h, true⟩) := by
  induction tries generalizing f with
  | zero =>
    cases asked
    exact absurd rfl settled
  | succ tries ih =>
    simp only [nextRecord, Bool.false_eq_true, if_false] at asked
    cases returned : f.next steps with
    | mk result? f' =>
      rw [returned] at asked
      rcases result? with _ | e | _ | record
      · cases asked
        exact absurd rfl settled
      · cases soft : e.isSoft with
        | true =>
          simp only [soft, if_true] at asked
          obtain ⟨failures, last, h, run, goesOn, nothing, told⟩ := ih asked
          refine ⟨.error e :: failures, last, h, .cons ⟨steps, returned⟩ run, ?_, nothing, told⟩
          exact List.forall_mem_cons.mpr ⟨by simp [isFinal, soft], goesOn⟩
        | false =>
          simp only [soft, Bool.false_eq_true, if_false] at asked
          cases asked
          exact ⟨[], _, f', .cons ⟨steps, returned⟩ (.nil f'), by simp, rfl,
            .inr ⟨rfl, by simp [isFinal, soft], rfl⟩⟩
      · cases asked
        exact ⟨[], _, f', .cons ⟨steps, returned⟩ (.nil f'), by simp, rfl, .inr ⟨rfl, rfl, rfl⟩⟩
      · cases asked
        exact ⟨[], _, f', .cons ⟨steps, returned⟩ (.nil f'), by simp, rfl,
          .inl ⟨record, rfl, rfl, rfl⟩⟩

/-- What is read first is what the feed returns first. -/
theorem exists_run_of_gives (gives : Gives nextRecord (⟨f, false⟩ : Reading κ) records r') :
    ∃ results h, f.Run results h ∧ (∀ result ∈ results, ¬ isFinal result) ∧
      recordsIn results = records ∧ r' = ⟨h, false⟩ := by
  generalize start : (⟨f, false⟩ : Reading κ) = r at gives
  induction gives generalizing f with
  | nil =>
    subst start
    exact ⟨[], f, .nil f, by simp, rfl, rfl⟩
  | @item _ _ _ record _ steps tries first _ ih =>
    subst start
    obtain ⟨failures, last, h, run, goesOn, nothing, told⟩ :=
      exists_run_of_nextRecord first (Outcome.item_ne_unsettled record)
    obtain ⟨record', same, rfl, rfl⟩ | ⟨wrong, -⟩ := told
    · cases same
      obtain ⟨results, h', run', goesOn', those, rfl⟩ := ih rfl
      refine ⟨failures ++ [.ok (some record)] ++ results, h', run.trans run', ?_, ?_, rfl⟩
      · simp only [List.mem_append, List.mem_singleton]
        rintro result ((before | rfl) | behind)
        · exact goesOn result before
        · exact Bool.false_ne_true
        · exact goesOn' result behind
      · rw [recordsIn_append, recordsIn_append, nothing, those]
        rfl
    · cases wrong

/-- A reading of records comes to its end because the feed returns a final result. -/
theorem exists_endsWith (reads : ReadsThrough nextRecord (⟨f, false⟩ : Reading κ) records r') :
    ∃ results last h, f.EndsWith results last h := by
  generalize start : (⟨f, false⟩ : Reading κ) = r at reads
  induction reads generalizing f with
  | ended steps tries asked =>
    subst start
    obtain ⟨failures, last, h, run, goesOn, -, told⟩ :=
      exists_run_of_nextRecord asked Outcome.ended_ne_unsettled
    obtain ⟨_, wrong, -⟩ | ⟨-, final, -⟩ := told
    · cases wrong
    · exact ⟨failures, last, h, run, goesOn, final⟩
  | item steps tries first _ ih =>
    subst start
    have one := Gives.item steps tries first (.nil _)
    obtain ⟨results, h, run, goesOn, -, rfl⟩ := exists_run_of_gives one
    obtain ⟨results', last, h', ends⟩ := ih rfl
    exact ⟨results ++ results', last, h', ends.of_run run goesOn⟩

/-- What the feed returns first is read first. -/
theorem exists_gives_of_run (run : f.Run results g)
    (goesOn : ∀ result ∈ results, ¬ isFinal result) :
    ∃ r, Gives nextRecord (⟨f, false⟩ : Reading κ) (recordsIn results) r := by
  induction run with
  | nil f => exact ⟨_, .nil _⟩
  | @cons f g h result results first _ ih =>
    obtain ⟨notFinal, others_go_on⟩ := List.forall_mem_cons.mp goesOn
    obtain ⟨r, gives⟩ := ih others_go_on
    obtain ⟨steps, returned⟩ := first
    rcases result with e | _ | record
    · have soft : e.isSoft := by simpa [isFinal] using notFinal
      -- with one try more the failure is passed over
      refine gives.of_answers fun steps' tries x t later => ⟨max steps steps', tries + 1, ?_⟩
      have returned' := Feed.next_of_returned returned (Nat.le_max_left steps steps')
      simp only [nextRecord, Bool.false_eq_true, if_false, returned', soft, if_true]
      exact settles_nextRecord.of_le later (Outcome.item_ne_unsettled _)
        (Nat.le_max_right _ _) (Nat.le_refl _)
    · exact absurd rfl notFinal
    · refine ⟨r, .item steps 1 ?_ gives⟩
      simp [nextRecord, returned]

/-- Up to a final result just the records among the results are read. -/
theorem readsThrough_iff (ends : f.EndsWith results last g) :
    ReadsThrough nextRecord (⟨f, false⟩ : Reading κ) records r' ↔
      records = recordsIn results ∧ r' = ⟨g, true⟩ := by
  have reads := readsThrough_records (readsThrough_results ends.run ends.goesOn ends.final)
  rw [recordsOf_deliveriesIn, recordsIn_append_final ends.final] at reads
  exact reads.iff settles_nextRecord _ _

/-- A reading of records comes to its end just if the feed returns a final result. -/
theorem exists_readsThrough_iff :
    (∃ records r, ReadsThrough nextRecord (⟨f, false⟩ : Reading κ) records r) ↔
      ∃ results last h, f.EndsWith results last h := by
  constructor
  · rintro ⟨records, r, reads⟩
    exact exists_endsWith reads
  · rintro ⟨results, last, h, ends⟩
    exact ⟨_, _, (readsThrough_iff ends).mpr ⟨rfl, rfl⟩⟩

end Reading

namespace ElementReading

variable {r r' : ElementReading κ} {records : List Record} {elements : List Element}

/-- The next element is one of the next records; and the reading comes to its end because that of
records does. -/
theorem exists_records_of_next {steps tries : ℕ} {outcome : Outcome Element}
    (asked : r.next steps tries = (outcome, r')) (settled : outcome ≠ .unsettled) :
    ∃ records, ((∃ e, outcome = .item e) ∧ Gives Reading.nextRecord r.reading records r'.reading) ∨
      outcome = .ended ∧ ReadsThrough Reading.nextRecord r.reading records r'.reading := by
  fun_induction next steps tries r with
  | case1 =>
    cases asked
    exact absurd rfl settled
  | case2 tries r e cached =>
    cases asked
    exact ⟨[], .inl ⟨⟨e, rfl⟩, .nil _⟩⟩
  | case3 =>
    cases asked
    exact absurd rfl settled
  | case4 tries r empty reading last =>
    cases asked
    exact ⟨[], .inr ⟨rfl, .ended steps (tries + 1) last⟩⟩
  | case5 tries r empty record reading first ih =>
    obtain ⟨records, ⟨given, gives⟩ | ⟨said, reads⟩⟩ := ih asked
    · exact ⟨record :: records, .inl ⟨given, .item steps (tries + 1) first gives⟩⟩
    · exact ⟨record :: records, .inr ⟨said, .item steps (tries + 1) first reads⟩⟩

/-- A reading of elements comes to its end because that of records does. -/
theorem exists_readsThrough (reads : ReadsThrough next r elements r') :
    ∃ records, ReadsThrough Reading.nextRecord r.reading records r'.reading := by
  induction reads with
  | ended steps tries last =>
    obtain ⟨records, ⟨⟨_, wrong⟩, -⟩ | ⟨-, reads⟩⟩ :=
      exists_records_of_next last Outcome.ended_ne_unsettled
    · cases wrong
    · exact ⟨records, reads⟩
  | item steps tries first _ ih =>
    obtain ⟨records, ⟨-, gives⟩ | ⟨wrong, -⟩⟩ :=
      exists_records_of_next first (Outcome.item_ne_unsettled _)
    · obtain ⟨records', reads⟩ := ih
      exact ⟨records ++ records', gives.readsThrough reads⟩
    · cases wrong

/-- The elements of the last record come first, in their order. -/
theorem gives_cached {reading : Reading κ} (gives : Gives next ⟨reading, #[]⟩ elements r')
    (es : List Element) : Gives next ⟨reading, es.toArray.reverse⟩ (es ++ elements) r' := by
  induction es with
  | nil => exact gives
  | cons e es ih => exact .item 0 1 (next_of_cached reading e es) ih

/-- The elements of the records that are read first are read first. -/
theorem exists_gives_of_gives {s s' : Reading κ} (gives : Gives Reading.nextRecord s records s') :
    ∃ r, Gives next (⟨s, #[]⟩ : ElementReading κ) (records.flatMap Record.elements) r := by
  induction gives with
  | nil s => exact ⟨_, .nil _⟩
  | @item s s' t record records steps tries first _ ih =>
    obtain ⟨r, gives⟩ := ih
    -- a record without elements, too, is passed over with one try more
    refine (gives_cached gives record.elements).of_answers fun steps' tries' e r later =>
      ⟨max steps steps', max tries tries' + 1, ?_⟩
    have first' : s.nextRecord (max steps steps') (max tries tries' + 1) = (.item record, s') :=
      Reading.settles_nextRecord.of_le first (Outcome.item_ne_unsettled record)
        (Nat.le_max_left _ _) ((Nat.le_max_left _ _).trans (Nat.le_succ _))
    simp only [next, first', Array.back?_empty]
    exact settles_next.of_le later (Outcome.item_ne_unsettled _)
      (Nat.le_max_right _ _) (Nat.le_max_right _ _)

/-- Up to a final result just the elements of the records among the results are read. -/
theorem readsThrough_iff (ends : f.EndsWith results last g) :
    ReadsThrough next (⟨⟨f, false⟩, #[]⟩ : ElementReading κ) elements r' ↔
      elements = (recordsIn results).flatMap Record.elements ∧ r' = ⟨⟨g, true⟩, #[]⟩ :=
  (readsThrough_elements ((Reading.readsThrough_iff ends).mpr ⟨rfl, rfl⟩)).iff settles_next _ _

/-- A reading of elements comes to its end just if the feed returns a final result. -/
theorem exists_readsThrough_iff :
    (∃ elements r, ReadsThrough next (⟨⟨f, false⟩, #[]⟩ : ElementReading κ) elements r) ↔
      ∃ results last h, f.EndsWith results last h := by
  constructor
  · rintro ⟨elements, r, reads⟩
    obtain ⟨records, reads⟩ := exists_readsThrough reads
    exact Reading.exists_endsWith reads
  · rintro ⟨results, last, h, ends⟩
    exact ⟨_, _, (readsThrough_iff ends).mpr ⟨rfl, rfl⟩⟩

end ElementReading

/-! ## What is printed -/

/-- The lines of records. -/
def Layout.lines (layout : Layout) (records : List Record) : List String :=
  records.flatMap layout.render

theorem Layout.lines_append (layout : Layout) (records records' : List Record) :
    layout.lines (records ++ records') = layout.lines records ++ layout.lines records' :=
  List.flatMap_append

/-- A report with some lines before its own. -/
def Report.prepend (lines : List String) (report : Report) : Report :=
  { report with output := lines ++ report.output }

theorem Report.prepend_append (lines lines' : List String) (report : Report) :
    report.prepend (lines ++ lines') = (report.prepend lines').prepend lines := by
  simp [prepend]

/-- How a run ends with a final result. -/
def endingOf : Except FeedError (Option Record) → Ending
  | .ok _ => ⟨none⟩
  | .error e => ⟨some e.message⟩

variable {layout : Layout} {report report' : Report} {steps : ℕ} {delay? : Option Duration}
  {result : Except FeedError (Option Record)}

theorem Layout.print_of_final (final : Reading.isFinal last) :
    layout.print last = .ended (endingOf last) := by
  rcases last with e | _ | record
  · have hard : e.isSoft = false := by simpa [Reading.isFinal] using final
    rw [print, hard]
    rfl
  · rfl
  · cases final

theorem Layout.print_of_not_final (goesOn : ¬ Reading.isFinal result) :
    layout.print result = .lines (layout.lines (recordsIn [result])) := by
  rcases result with e | _ | record
  · have soft : e.isSoft := by simpa [Reading.isFinal] using goesOn
    rw [print, if_pos soft]
    rfl
  · exact absurd rfl goesOn
  · exact congrArg Printed.lines (List.append_nil _).symm

/-! ### One step -/

theorem run_forM_note (lines noted : List String) :
    (lines.forM note).run noted = ((), lines.reverse ++ noted) := by
  induction lines generalizing noted with
  | nil => rfl
  | cons line lines ih =>
    change (lines.forM note).run (line :: noted) = _
    rw [ih, List.reverse_cons, List.append_assoc]
    rfl

/-- How a feed that is followed ends, and what has been written down by then, the last line first. -/
def noting (layout : Layout) (steps : ℕ) (f : Feed κ) (noted : List String) :
    Option Ending × List String :=
  (follow note (fun _ => pure ()) layout steps f).run noted

theorem noting_again (first : f.step = (.again delay?, g)) (noted : List String) :
    noting layout (steps + 1) f noted = noting layout steps g noted := by
  rw [noting, follow, first]
  cases delay? <;> rfl

theorem noting_final (first : f.step = (.delivered last, g)) (final : Reading.isFinal last)
    (noted : List String) : noting layout (steps + 1) f noted = (some (endingOf last), noted) := by
  rw [noting, follow, first]
  simp only [Layout.print_of_final final]
  rfl

theorem noting_delivered (first : f.step = (.delivered result, g))
    (goesOn : ¬ Reading.isFinal result) (noted : List String) :
    noting layout (steps + 1) f noted =
      noting layout steps g ((layout.lines (recordsIn [result])).reverse ++ noted) := by
  rw [noting, follow, first]
  simp only [Layout.print_of_not_final goesOn, StateT.run_bind, run_forM_note]
  rfl

/-- What has been written down before makes no difference to what is written down then. -/
theorem noting_eq (layout : Layout) (steps : ℕ) (f : Feed κ) (noted : List String) :
    noting layout steps f noted =
      ((noting layout steps f []).1, (noting layout steps f []).2 ++ noted) := by
  induction steps generalizing f noted with
  | zero => rfl
  | succ steps ih =>
    rcases first : f.step with ⟨result | delay?, g⟩
    · by_cases final : Reading.isFinal result
      · simp only [noting_final first final, List.nil_append]
      · simp only [noting_delivered first final, List.append_nil]
        rw [ih g (_ ++ noted), ih g (List.reverse _), List.append_assoc]
    · simp only [noting_again first]
      exact ih g noted

theorem printAll_eq (layout : Layout) (steps : ℕ) (f : Feed κ) : printAll layout steps f =
    (noting layout steps f []).1.map fun ending => ⟨(noting layout steps f []).2.reverse, ending⟩ :=
  rfl

theorem printAll_again (first : f.step = (.again delay?, g)) :
    printAll layout (steps + 1) f = printAll layout steps g := by
  rw [printAll_eq, printAll_eq, noting_again first]

theorem printAll_delivered (first : f.step = (.delivered result, g))
    (goesOn : ¬ Reading.isFinal result) : printAll layout (steps + 1) f =
      (printAll layout steps g).map (.prepend (layout.lines (recordsIn [result]))) := by
  rw [printAll_eq, printAll_eq, noting_delivered first goesOn, noting_eq, Option.map_map]
  refine congrArg (Option.map · _) (funext fun ending => ?_)
  simp [Report.prepend]

theorem printAll_final (first : f.step = (.delivered last, g)) (final : Reading.isFinal last) :
    printAll layout (steps + 1) f = some ⟨[], endingOf last⟩ := by
  rw [printAll_eq, noting_final first final]
  rfl

/-! ### All steps -/

/-- The lines of the records among the results come first, whatever is reported then. -/
theorem printAll_of_steps (layout : Layout) (first : f.Steps results g)
    (goesOn : ∀ result ∈ results, ¬ Reading.isFinal result) : ∃ enough, ∀ more,
      printAll layout (enough + more) f =
        (printAll layout more g).map (.prepend (layout.lines (recordsIn results))) := by
  -- by induction on the steps: each of them costs one, and only results leave lines
  induction first with
  | refl f => exact ⟨0, fun more => by rw [Nat.zero_add]; exact Option.map_id'.symm⟩
  | again first _ ih =>
    obtain ⟨enough, others⟩ := ih goesOn
    refine ⟨enough + 1, fun more => ?_⟩
    rw [Nat.add_right_comm, printAll_again first, others]
  | @delivered f g h result results first _ ih =>
    obtain ⟨notFinal, others_go_on⟩ := List.forall_mem_cons.mp goesOn
    obtain ⟨enough, others⟩ := ih others_go_on
    refine ⟨enough + 1, fun more => ?_⟩
    rw [Nat.add_right_comm, printAll_delivered first notFinal, others, Option.map_map]
    refine congrArg (Option.map · _) (funext fun report => ?_)
    have split : layout.lines (recordsIn (result :: results)) =
        layout.lines (recordsIn [result]) ++ layout.lines (recordsIn results) := by
      rw [← List.singleton_append, recordsIn_append, Layout.lines_append]
    rw [split]
    exact (report.prepend_append _ _).symm

/-- A final result ends what is printed. -/
theorem printAll_of_final (layout : Layout) (returned : f.Returns last g)
    (final : Reading.isFinal last) : ∃ enough, ∀ more,
      printAll layout (enough + more) f = some ⟨[], endingOf last⟩ := by
  -- the feed is asked again until the step that delivers the result
  obtain ⟨h, before, delivered⟩ := returned.exists_steps
  obtain ⟨enough, first⟩ := printAll_of_steps layout before (by simp)
  refine ⟨enough + 1, fun more => ?_⟩
  rw [Nat.add_assoc, first, Nat.add_comm 1 more, printAll_final delivered final]
  rfl

/-- What is reported ends with a final result of the feed. -/
theorem exists_endsWith_of_printAll (reported : printAll layout steps f = some report) :
    ∃ results last h, f.EndsWith results last h ∧
      report = ⟨layout.lines (recordsIn results), endingOf last⟩ := by
  induction steps generalizing f report with
  | zero => cases reported
  | succ steps ih =>
    rcases first : f.step with ⟨result | delay?, g⟩
    · by_cases final : Reading.isFinal result
      · rw [printAll_final first final] at reported
        cases reported
        exact ⟨[], result, g, ⟨.cons (.of_step first) (.nil g), by simp, final⟩, rfl⟩
      · rw [printAll_delivered first final] at reported
        obtain ⟨later, reported', rfl⟩ := Option.map_eq_some_iff.mp reported
        obtain ⟨results, last, h, ends, rfl⟩ := ih reported'
        have one : f.Run [result] g := .cons (.of_step first) (.nil g)
        refine ⟨_, last, h, ends.of_run one (by simpa using final), ?_⟩
        rw [recordsIn_append, Layout.lines_append]
        rfl
    · rw [printAll_again first] at reported
      obtain ⟨results, last, h, ⟨run, goesOn, final⟩, rfl⟩ := ih reported
      exact ⟨results, last, h, ⟨run.again first (by simp), goesOn, final⟩, rfl⟩

/-- What is reported is told by the results of the feed up to a final one. -/
theorem exists_printAll_iff : (∃ steps, printAll layout steps f = some report) ↔
    ∃ results last h, f.EndsWith results last h ∧
      report = ⟨layout.lines (recordsIn results), endingOf last⟩ := by
  constructor
  · rintro ⟨steps, reported⟩
    exact exists_endsWith_of_printAll reported
  · rintro ⟨results, last, h, ⟨run, goesOn, final⟩, rfl⟩
    obtain ⟨g, before, after⟩ := run.exists_of_append
    cases after with
    | cons returned _ =>
      obtain ⟨enough, first⟩ := printAll_of_steps layout before.steps goesOn
      obtain ⟨enough', second⟩ := printAll_of_final layout returned final
      refine ⟨enough + enough', ?_⟩
      rw [first, ← Nat.add_zero enough', second]
      simp [Report.prepend]

namespace Layout

variable {records : List Record}

theorem lines_of_records (plain : layout.perElement = false) :
    layout.lines records = records.map layout.recordLine := by
  have one : layout.render = fun record => [layout.recordLine record] := by
    funext record
    rw [render, if_neg (by simp [plain])]
  rw [lines, one, List.map_eq_flatMap]

/-- The elements of records, each with the collector of its record. -/
def owned (records : List Record) : List (String × Element) :=
  records.flatMap fun record => record.elements.map fun e => (record.collector, e)

theorem map_snd_owned : (owned records).map Prod.snd = records.flatMap Record.elements := by
  simp [owned, List.map_flatMap, Function.comp_def]

theorem lines_of_elements (each : layout.perElement) :
    layout.lines records = (owned records).map fun p => layout.elementLine p.1 p.2 := by
  have some_or_none : layout.render = fun record =>
      record.elements.map (layout.elementLine record.collector) := by
    funext record
    rw [render, if_pos each]
  rw [lines, some_or_none, owned, List.map_flatMap]
  simp only [List.map_map, Function.comp_def]

/-- Without elements each line tells a record. -/
theorem forall₂_tellsRecord (plain : layout.perElement = false) (records : List Record) :
    List.Forall₂ layout.TellsRecord records (layout.lines records) := by
  rw [lines_of_records plain, List.forall₂_map_right_iff]
  exact List.forall₂_same.mpr fun record _ => layout.tellsRecord_recordLine record

/-- With elements each line tells an element and the collector of its record. -/
theorem forall₂_tellsElement (each : layout.perElement) (records : List Record) :
    List.Forall₂ (fun p line => layout.TellsElement p.1 p.2 line) (owned records)
      (layout.lines records) := by
  rw [lines_of_elements each, List.forall₂_map_right_iff]
  exact List.forall₂_same.mpr fun p _ => layout.tellsElement_elementLine p.1 p.2

end Layout

/-! ## Runs -/

/-- A run reports something, if it is allowed enough steps. -/
def Reports (a : Arguments) (now : Seconds) (f : Feed κ) (report : Report) : Prop :=
  ∃ steps, run a now steps f = some report

section Reports

variable {a : Arguments} {now : Seconds} {records : List Record}

/-- Once the feed has been started a run does nothing but print. -/
theorem run_eq_printAll (printing : a.list = false) (launched : launch a now f = .ok g)
    (steps : ℕ) : run a now steps f = printAll a.layout steps g := by
  simp only [run, printAll, carryOut, printing, Bool.false_eq_true, if_false, launched]

theorem reports_iff (printing : a.list = false) (launched : launch a now f = .ok g) :
    Reports a now f report ↔ ∃ results last h, g.EndsWith results last h ∧
      report = ⟨a.layout.lines (recordsIn results), endingOf last⟩ := by
  simp only [Reports, run_eq_printAll printing launched]
  exact exists_printAll_iff

theorem exists_reports_iff (printing : a.list = false) (launched : launch a now f = .ok g) :
    (∃ report, Reports a now f report) ↔ ∃ results last h, g.EndsWith results last h := by
  constructor
  · rintro ⟨report, reported⟩
    obtain ⟨results, last, h, ends, -⟩ := (reports_iff printing launched).mp reported
    exact ⟨results, last, h, ends⟩
  · rintro ⟨results, last, h, ends⟩
    exact ⟨_, (reports_iff printing launched).mpr ⟨results, last, h, ends, rfl⟩⟩

/-- Only one thing is reported. -/
theorem Reports.unique (printing : a.list = false) (launched : launch a now f = .ok g)
    (reported : Reports a now f report) (reported' : Reports a now f report') :
    report = report' := by
  obtain ⟨results, last, h, ends, rfl⟩ := (reports_iff printing launched).mp reported
  obtain ⟨results', last', h', ends', rfl⟩ := (reports_iff printing launched).mp reported'
  obtain ⟨rfl, rfl⟩ := ends.unique ends'
  rfl

/-- The output of a run is the lines of the records that are read. -/
theorem Reports.output_eq {r : Reading κ} (printing : a.list = false)
    (launched : launch a now f = .ok g) (reported : Reports a now f report)
    (reads : ReadsThrough Reading.nextRecord ⟨g, false⟩ records r) :
    report.output = a.layout.lines records := by
  obtain ⟨results, last, h, ends, rfl⟩ := (reports_iff printing launched).mp reported
  rw [((Reading.readsThrough_iff ends).mp reads).1]

/-- The elements of the records that are read are the elements that are read. -/
theorem map_snd_owned_of_endsWith {elements : List Element} {r : Reading κ}
    {s : ElementReading κ} (ends : g.EndsWith results last h)
    (reads : ReadsThrough Reading.nextRecord ⟨g, false⟩ records r)
    (reads' : ReadsThrough ElementReading.next ⟨⟨g, false⟩, #[]⟩ elements s) :
    (Layout.owned records).map Prod.snd = elements := by
  rw [Layout.map_snd_owned, ((Reading.readsThrough_iff ends).mp reads).1,
    ((ElementReading.readsThrough_iff ends).mp reads').1]

end Reports

/-- A run that reads a feed prints what the readers of records and of elements give of it. -/
structure FollowsReaders (a : Arguments) (now : Seconds) (f g : Feed κ) : Prop where
  /-- A run comes to its end just if the reading of records does. -/
  ends_with_records : (∃ report, Reports a now f report) ↔
    ∃ records r, ReadsThrough Reading.nextRecord (⟨g, false⟩ : Reading κ) records r
  /-- It does so just if the reading of elements does. -/
  ends_with_elements : (∃ report, Reports a now f report) ↔
    ∃ elements r, ReadsThrough ElementReading.next (⟨⟨g, false⟩, #[]⟩ : ElementReading κ) elements r
  /-- It is ended by a final result. -/
  ends {report : Report} : Reports a now f report → ∃ results last h, g.EndsWith results last h
  /-- There is one report only. -/
  unique {report report' : Report} :
    Reports a now f report → Reports a now f report' → report = report'
  /-- Without elements there is one line for each record that is read, in order, which tells the
  record. -/
  record_lines {report : Report} {records : List Record} {r : Reading κ} :
    a.elements = false → Reports a now f report →
      ReadsThrough Reading.nextRecord ⟨g, false⟩ records r →
        report.output = records.map a.layout.recordLine ∧
          List.Forall₂ a.layout.TellsRecord records report.output
  /-- With elements there is one line for each element that is read, in order, which tells the element
  and the collector of its record. -/
  element_lines {report : Report} {records : List Record} {elements : List Element}
    {r : Reading κ} {s : ElementReading κ} :
    a.elements → Reports a now f report →
      ReadsThrough Reading.nextRecord ⟨g, false⟩ records r →
      ReadsThrough ElementReading.next ⟨⟨g, false⟩, #[]⟩ elements s →
        (Layout.owned records).map Prod.snd = elements ∧
          report.output = ((Layout.owned records).map fun p => a.layout.elementLine p.1 p.2) ∧
          List.Forall₂ (fun p line => a.layout.TellsElement p.1 p.2 line) (Layout.owned records)
            report.output
  /-- If the feed comes to its end, all lines are printed, and failures that cost one dump have left
  nothing. -/
  succeeded {results : List (Except FeedError (Option Record))} {h : Feed κ} :
    g.EndsWith results (.ok none) h → ∃ report, Reports a now f report ∧
      report.output = a.layout.lines (recordsIn results) ∧ report.ending.failure? = none ∧
        report.ending.exitCode = 0
  /-- If it fails otherwise, the lines of the records before have been printed. -/
  failed {results : List (Except FeedError (Option Record))} {e : FeedError} {h : Feed κ} :
    g.EndsWith results (.error e) h → ∃ report, Reports a now f report ∧
      report.output = a.layout.lines (recordsIn results) ∧
        report.ending.failure? = some e.message ∧ report.ending.exitCode = 1
  /-- Whatever is read first comes from results after which the feed is asked again. -/
  returned_first {records : List Record} {r : Reading κ} :
    Gives Reading.nextRecord ⟨g, false⟩ records r → ∃ results h, g.Run results h ∧
      (∀ result ∈ results, ¬ Reading.isFinal result) ∧ recordsIn results = records
  /-- Of such results the records and their elements are read first, and their lines are printed
  first, whether or not the feed ever comes to an end. -/
  printed_first {results : List (Except FeedError (Option Record))} {h : Feed κ} :
    g.Run results h → (∀ result ∈ results, ¬ Reading.isFinal result) →
      (∃ r, Gives Reading.nextRecord (⟨g, false⟩ : Reading κ) (recordsIn results) r) ∧
      (∃ r, Gives ElementReading.next (⟨⟨g, false⟩, #[]⟩ : ElementReading κ)
        ((recordsIn results).flatMap Record.elements) r) ∧
      ∃ enough, ∀ more, run a now (enough + more) f =
        (printAll a.layout more h).map (.prepend (a.layout.lines (recordsIn results)))

/-- **Output follows the readers.** Whenever the command line has set up and started a feed, from
any catalogue and with any dumps, it prints exactly what the readers give of this feed: a line for
each record, or for each element one with the collector of its record, in their order. It comes to
its end just if they do. Failures that cost one dump leave no line and no trace in the exit code;
any other failure ends the run after the lines of all records before it, with its sentence and the
exit code one, and without such a failure the exit code is zero. -/
theorem run_follows_readers {a : Arguments} {now : Seconds} {f g : Feed κ}
    (printing : a.list = false) (launched : launch a now f = .ok g) : FollowsReaders a now f g := by
  have told {report : Report} : Reports a now f report ↔ ∃ results last h,
      g.EndsWith results last h ∧
        report = ⟨a.layout.lines (recordsIn results), endingOf last⟩ :=
    reports_iff printing launched
  have ending := exists_reports_iff printing launched
  exact
    { ends_with_records := ending.trans Reading.exists_readsThrough_iff.symm
      ends_with_elements := ending.trans ElementReading.exists_readsThrough_iff.symm
      ends := fun reported => ending.mp ⟨_, reported⟩
      unique := Reports.unique printing launched
      record_lines := by
        intro report records r plain reported reads
        rw [reported.output_eq printing launched reads]
        exact ⟨Layout.lines_of_records plain, Layout.forall₂_tellsRecord plain records⟩
      element_lines := by
        intro report records elements r s each reported reads reads'
        obtain ⟨results, last, h, ends⟩ := ending.mp ⟨_, reported⟩
        refine ⟨map_snd_owned_of_endsWith ends reads reads', ?_⟩
        rw [reported.output_eq printing launched reads]
        exact ⟨Layout.lines_of_elements each, Layout.forall₂_tellsElement each records⟩
      succeeded := fun {results h} ends =>
        ⟨_, told.mpr ⟨results, _, h, ends, rfl⟩, rfl, rfl, rfl⟩
      failed := fun {results e h} ends =>
        ⟨_, told.mpr ⟨results, _, h, ends, rfl⟩, rfl, rfl, rfl⟩
      returned_first := by
        intro records r gives
        obtain ⟨results, h, run, goesOn, those, -⟩ := Reading.exists_run_of_gives gives
        exact ⟨results, h, run, goesOn, those⟩
      printed_first := by
        intro results h returned goesOn
        obtain ⟨r, gives⟩ := Reading.exists_gives_of_run returned goesOn
        simp only [run_eq_printAll printing launched]
        exact ⟨⟨r, gives⟩, ElementReading.exists_gives_of_gives gives,
          printAll_of_steps a.layout returned.steps goesOn⟩ }

/-- A catalogue that lists a dump without records, one with three, the second of them without
elements, and then fails. -/
def failingCatalogue : Replay :=
  { name := "replay"
    description := ""
    settings := []
    script := [.chunks [Feed.emptyChunk, Feed.brokenChunk] none, .failure Discovery.notStarted]
    patience := 0
    starts := [] }

/-- A feed of this catalogue; the decoding of both dumps is cut off. -/
def failingFeed : Feed Replay := .ofList [failingCatalogue] Feed.brokenOpener

/-- Arguments that ask for the elements of a time interval. -/
def elementArguments : Arguments where
  catalogue? := none
  settings := []
  list := false
  elements := true
  json := false
  projects := []
  collectors := []
  kinds := []
  peers := []
  origins := []
  blocks := []
  relation := .exact
  action? := none
  path? := none
  start? := some "0"
  stop? := some "10"
  recent? := none
  live := false
  ribPeriod? := none

/-- The feed as these arguments set it up and start it. -/
def failingStarted : Feed Replay := (failingFeed.setInterval ⟨0, some 10⟩).start.2

/-- Three elements are printed, each with the collector in front of it, and the exit code is one. -/
theorem run_follows_readers_failing : elementArguments.list = false ∧
    launch elementArguments 0 failingFeed = .ok failingStarted ∧ failingStarted.isLive = false ∧
    FollowsReaders elementArguments 0 failingFeed failingStarted ∧
    ∃ report, Reports elementArguments 0 failingFeed report ∧ report.output =
        ["rrc00|A|0|0.0.0.0|1|0.0.0.0/0|||||||false||",
          "rrc00|A|0|0.0.0.0|2|0.0.0.0/0|||||||false||",
          "rrc00|A|0|0.0.0.0|3|0.0.0.0/0|||||||false||"] ∧
      report.ending.failure? = some Discovery.notStarted.message ∧ report.ending.exitCode = 1 := by
  have launched : launch elementArguments 0 failingFeed = .ok failingStarted := rfl
  have follows := run_follows_readers rfl launched
  have run : ∃ h, failingStarted.Run (Feed.brokenFront ++ [.error Discovery.notStarted]) h := by
    refine ⟨_, .cons (.of_next 2 ?_) <| .cons (.of_next 2 ?_) <| .cons (.of_next 2 ?_) <|
      .cons (.of_next 2 ?_) <| .cons (.of_next 2 ?_) <| .cons (.of_next 2 ?_) (.nil _)⟩ <;>
    decide +kernel
  obtain ⟨h, run⟩ := run
  obtain ⟨report, reported, output, failure, code⟩ := follows.failed ⟨run, by decide, rfl⟩
  refine ⟨rfl, launched, rfl, follows, report, reported, output.trans ?_, failure, code⟩
  decide +kernel

end RouteFeed
