import Mathlib.Order.Bounds.Defs
import RouteFeed.Proofs.Backlog

/-!
# Which chunks make a batch

A batch is as long as it can be. Its chunks stand together: each one behind the first begins no
earlier than the first, and before the cover of all chunks in front of it is over. This end moves
on with every chunk, so whether a chunk belongs to the batch depends on all that stand before it.
No longer front of the backlog stands together in this way. A backlog that is filled and emptied, in
any order, gives its chunks back in batches, and in the order in which they came.

## Main definitions

* `Backlog.CoversUntil` — when the cover of several chunks is over
* `Backlog.StandTogether` — what the chunks of a batch have in common
* `Backlog.IsBatch` — the longest front of a backlog whose chunks stand together
* `Backlog.Use`, `Backlog.serve` — filling and emptying a backlog

## Main results

* `Backlog.isBatch_batch` — the batch is the longest such front
* `Backlog.flatten_serve` — nothing is lost, doubled or moved
* `Backlog.serves_in_batches` — what is taken next, after any uses
-/

namespace RouteFeed.Backlog

variable {start stop : Seconds} {c first : Chunk} {before chunks : List Chunk}

/-! ## The cover of several chunks -/

/-- The time when the cover of some chunks is over, which is the latest of the ends of their
covers. -/
def CoversUntil (chunks : List Chunk) (stop : Seconds) : Prop :=
  IsGreatest {t | ∃ c ∈ chunks, coverEnd c = t} stop

/-- A chunk covers one second at least, so its cover does not end before its time. -/
theorem fileTime_le_coverEnd (c : Chunk) : c.fileTime ≤ coverEnd c := by
  have positive : 1 ≤ c.timeSpan.later 1 := Seconds.le_later_right c.timeSpan 1
  exact Seconds.le_satAdd c.fileTime (Int64.le_trans (by decide) positive)

theorem coversUntil_singleton (c : Chunk) : CoversUntil [c] (c.fileTime.later (coverEnd c)) := by
  have same : c.fileTime.later (coverEnd c) = coverEnd c := if_pos (fileTime_le_coverEnd c)
  rw [same]
  refine ⟨⟨c, List.mem_cons_self, rfl⟩, ?_⟩
  rintro t ⟨c', here, rfl⟩
  rw [List.mem_singleton.mp here]
  exact Int64.le_refl _

namespace CoversUntil

/-- One chunk more moves the end of the cover on, or leaves it. -/
theorem concat (covers : CoversUntil before stop) (c : Chunk) :
    CoversUntil (before ++ [c]) (stop.later (coverEnd c)) := by
  obtain ⟨⟨last, here, ends⟩, latest⟩ := covers
  refine ⟨?_, ?_⟩
  · rcases stop.later_eq_or (coverEnd c) with same | same
    · exact ⟨last, List.mem_append_left _ here, ends.trans same.symm⟩
    · exact ⟨c, List.mem_append_right _ List.mem_cons_self, same.symm⟩
  · rintro t ⟨c', known, rfl⟩
    rcases List.mem_append.mp known with old | new
    · exact Int64.le_trans (latest ⟨c', old, rfl⟩) (Seconds.le_later_left _ _)
    · rw [List.mem_singleton.mp new]
      exact Seconds.le_later_right _ _

theorem unique {stop' : Seconds} (covers : CoversUntil before stop)
    (covers' : CoversUntil before stop') : stop = stop' :=
  Int64.le_antisymm (covers'.2 covers.1) (covers.2 covers'.1)

end CoversUntil

/-! ## Standing together -/

/-- Chunks behind others: each of them begins not before `start`, and before the cover of all chunks
in front of it is over. -/
def Continues (start : Seconds) (before chunks : List Chunk) : Prop :=
  ∀ between c after, chunks = between ++ c :: after →
    start ≤ c.fileTime ∧ ∃ stop, CoversUntil (before ++ between) stop ∧ c.fileTime < stop

/-- Each chunk behind the first begins no earlier than the first one, and before the cover of all
chunks in front of it is over. -/
def StandTogether (chunks : List Chunk) : Prop :=
  ∀ first between c after, chunks = first :: between ++ c :: after →
    first.fileTime ≤ c.fileTime ∧ ∃ stop, CoversUntil (first :: between) stop ∧ c.fileTime < stop

theorem standTogether_nil : StandTogether [] := by
  intro first between c after split
  simp at split

theorem standTogether_cons :
    StandTogether (first :: chunks) ↔ Continues first.fileTime [first] chunks := by
  constructor
  · rintro together between c after rfl
    exact together first between c after rfl
  · intro continues first' between c after split
    obtain ⟨rfl, behind⟩ := List.cons_eq_cons.mp split
    exact continues between c after behind

theorem continues_nil : Continues start before [] := by
  intro between c after split
  simp at split

/-- The first chunk decides for itself, and the others come behind it, too. -/
theorem continues_cons (covers : CoversUntil before stop) :
    Continues start before (c :: chunks) ↔
      (start ≤ c.fileTime ∧ c.fileTime < stop) ∧ Continues start (before ++ [c]) chunks := by
  constructor
  · intro continues
    refine ⟨?_, ?_⟩
    · obtain ⟨begun, stop', covers', inside⟩ := continues [] c chunks rfl
      rw [List.append_nil] at covers'
      exact ⟨begun, covers.unique covers' ▸ inside⟩
    · rintro between d after rfl
      rw [List.append_assoc]
      exact continues (c :: between) d after rfl
  · rintro ⟨⟨begun, inside⟩, continues⟩ between d after split
    cases between with
    | nil =>
      obtain ⟨rfl, -⟩ := List.cons_eq_cons.mp split
      exact ⟨begun, stop, (List.append_nil before).symm ▸ covers, inside⟩
    | cons c' between =>
      obtain ⟨rfl, behind⟩ := List.cons_eq_cons.mp split
      have later := continues between d after behind
      rwa [List.append_assoc] at later

/-- The chunks that follow are as many as can continue what stands before them. -/
theorem continues_following (covers : CoversUntil before stop) (chunks : List Chunk) :
    Continues start before (following start stop chunks) ∧
      ∀ front, front <+: chunks → Continues start before front →
        front <+: following start stop chunks := by
  fun_induction following start stop chunks generalizing before with
  | case1 stop => exact ⟨continues_nil, fun front within _ => within⟩
  | case2 stop c rest inside ih =>
    obtain ⟨continues, longest⟩ := ih (covers.concat c)
    refine ⟨(continues_cons covers).mpr ⟨inside, continues⟩, fun front within goesOn => ?_⟩
    cases front with
    | nil => exact List.nil_prefix
    | cons c' front =>
      obtain ⟨rfl, behind⟩ := List.cons_prefix_cons.mp within
      exact (List.prefix_cons_inj c').mpr
        (longest front behind ((continues_cons covers).mp goesOn).2)
  | case3 stop c rest outside =>
    refine ⟨continues_nil, fun front within goesOn => ?_⟩
    cases front with
    | nil => exact List.nil_prefix
    | cons c' front =>
      obtain ⟨rfl, -⟩ := List.cons_prefix_cons.mp within
      exact absurd ((continues_cons covers).mp goesOn).1 outside

/-- The longest front of a backlog whose chunks stand together. -/
structure IsBatch (chunks : List Chunk) (b : Backlog) : Prop where
  front : chunks <+: b
  together : StandTogether chunks
  longest : ∀ front, front <+: b → StandTogether front → front <+: chunks

/-- The batch is the longest front of the backlog whose chunks stand together. -/
theorem isBatch_batch (b : Backlog) : IsBatch b.batch b where
  front := b.batch_isPrefix
  together := by
    cases b with
    | nil => exact standTogether_nil
    | cons c rest =>
      exact standTogether_cons.mpr (continues_following (coversUntil_singleton c) rest).1
  longest front within together := by
    cases b with
    | nil => exact within
    | cons c rest =>
      cases front with
      | nil => exact List.nil_prefix
      | cons c' front =>
        obtain ⟨rfl, behind⟩ := List.cons_prefix_cons.mp within
        have goesOn := standTogether_cons.mp together
        exact (List.prefix_cons_inj c').mpr
          ((continues_following (coversUntil_singleton c') rest).2 front behind goesOn)

/-! ## Filling and emptying -/

/-- What is done with a backlog. -/
inductive Use where
  /-- Chunks are put at its end. -/
  | push (chunks : List Chunk)
  /-- The next batch is taken. -/
  | take

/-- The chunks that a use adds. -/
def Use.added : Use → List Chunk
  | push chunks => chunks
  | take => []

/-- The batches that are taken in some uses, one after the other, and what is left at the end. -/
def serve : List Use → Backlog → List (List Chunk) × Backlog
  | [], b => ([], b)
  | .push chunks :: uses, b => serve uses (b.push chunks)
  | .take :: uses, b =>
    let (batch, b) := b.takeBatch
    let (batches, b) := serve uses b
    (batch :: batches, b)

/-- The batches that are taken and what is left at the end are what was there at first and what has
been added. -/
theorem flatten_serve (uses : List Use) (b : Backlog) :
    (serve uses b).1.flatten ++ (serve uses b).2 = b ++ uses.flatMap Use.added := by
  fun_induction serve uses b with
  | case1 b => simp
  | case2 b chunks uses ih => rw [ih, push, List.append_assoc, List.flatMap_cons, Use.added]
  | case3 b uses batch rest taken batches left served ih =>
    obtain ⟨rfl, rfl⟩ := Prod.mk.inj taken
    rw [served] at ih
    rw [List.flatten_cons, List.append_assoc, ih, ← List.append_assoc, batch_append_drop]
    rfl

/-- **Batching.** A backlog is filled and emptied in any order. The batches that have been taken and
what is left are all chunks that were added, in their order. Of what is left, the next batch is the
longest front whose chunks stand together. There is a chunk in it as long as any is left; and if
what is left is sorted by time, all chunks behind it begin when the cover of each chunk in it is
over. -/
theorem serves_in_batches {uses : List Use} {batches : List (List Chunk)} {b : Backlog}
    (served : serve uses [] = (batches, b)) :
    batches.flatten ++ b = uses.flatMap Use.added ∧
      b.takeBatch.1 ++ b.takeBatch.2 = b ∧
      IsBatch b.takeBatch.1 b ∧
      (b ≠ [] → b.takeBatch.1 ≠ []) ∧
      (Chunk.SortedByTime b →
        ∀ c ∈ b.takeBatch.1, ∀ d ∈ b.takeBatch.2, coverEnd c ≤ d.fileTime) := by
  have whole := flatten_serve uses []
  rw [served] at whole
  exact ⟨whole, b.batch_append_drop, b.isBatch_batch, batch_ne_nil,
    fun sorted c taken d left => coverEnd_le_of_mem_batch sorted taken left⟩

/-- Three chunks of which the second stretches the cover and the third covers no time at all, one
that begins before them, and two at the end of all time. A batch is taken in between. -/
def sampleUses : List Use :=
  [.push [⟨"ris", "rrc00", .update, "first", 1000, 300⟩,
      ⟨"ris", "rrc01", .update, "longer", 1299, 600⟩, ⟨"ris", "rrc02", .rib, "table", 1898, -5⟩,
      ⟨"ris", "rrc00", .update, "early", 900, 300⟩],
    .take,
    .push [⟨"ris", "rrc00", .rib, "late", Seconds.greatest, 300⟩,
      ⟨"ris", "rrc01", .rib, "late", Seconds.greatest, 300⟩]]

/-- The first batch ends before the chunk that begins too early; that one makes a batch of its
own. -/
theorem serves_in_batches_sample : ∃ batches b, serve sampleUses [] = (batches, b) ∧
    batches.map (List.map Chunk.locator) = [["first", "longer", "table"]] ∧
    b.takeBatch.1.map Chunk.locator = ["early"] ∧
    batches.flatten ++ b = sampleUses.flatMap Use.added ∧
    ∀ c ∈ b.takeBatch.1, ∀ d ∈ b.takeBatch.2, coverEnd c ≤ d.fileTime := by
  have served : serve sampleUses [] = (_, _) := rfl
  obtain ⟨whole, -, -, -, covered⟩ := serves_in_batches served
  exact ⟨_, _, served, by decide, by decide, whole, covered (by decide)⟩

end RouteFeed.Backlog
