import RouteFeed.Proofs.Criteria.Selection
import RouteFeed.Proofs.Seconds
import RouteFeed.Proofs.Timestamp.Rounding

/-!
# Which chunks an interval needs

Whether a chunk is fetched is decided by its whole seconds, whether a record is kept by the double
that is its time. The first test loses nothing of what the second would keep: a record whose time
lies in the seconds of a chunk and in the interval is never in a chunk that is left out. For this
the bounds of the interval have to be doubles, since only then the second test compares with the
same bounds as the first. And the first test is not coarser than whole seconds have to be: the
chunks that it lets through are those of which some second is in the interval.

## Main definitions

* `Criteria.AdmitsSource` — the criteria on dumps let a chunk through, whatever its time
* `Criteria.HasExactBounds` — the bounds of the interval are doubles
* `Chunk.Covers`, `Chunk.CoversSecond`, `Interval.HasSecond` — timestamps and seconds inside

## Main results

* `Interval.reaches_of_contains`, `Interval.reaches_iff` — what the test of a chunk says
* `Criteria.acceptsChunk_lossless` — chunks that are left out have nothing to keep
-/

namespace RouteFeed

/-- A timestamp in the seconds of a chunk: not before the first second, and before the one that
follows the last, by the exact values. -/
def Chunk.Covers (chunk : Chunk) (t : Timestamp) : Prop :=
  t.isFinite ∧ chunk.fileTime.toInt * Timestamp.unitsPerSecond ≤ t.units ∧
    t.units < (chunk.endTime.toInt + 1) * Timestamp.unitsPerSecond

/-- A second from the first to the last one that a chunk covers. -/
def Chunk.CoversSecond (chunk : Chunk) (s : Seconds) : Prop :=
  chunk.fileTime ≤ s ∧ s ≤ chunk.endTime

namespace Interval

variable {i : Interval} {chunk : Chunk} {first last s : Seconds} {t : Timestamp}

/-- A second from the start of an interval to its end. -/
def HasSecond (i : Interval) (s : Seconds) : Prop :=
  i.start ≤ s ∧ ∀ stop, i.stop? = some stop → s ≤ stop

/-- An interval whose bounds have at most 53 bits, or are the numbers that follow these. -/
def HasExactBounds (i : Interval) : Prop :=
  i.start.toInt.natAbs ≤ twoTo 53 ∧
    ∀ stop, i.stop? = some stop → stop.toInt.natAbs ≤ twoTo 53

theorem contains_iff : i.contains t ↔
    (bound i.start).le t ∧ ∀ stop, i.stop? = some stop → t.le (bound stop) := by
  unfold contains
  cases i.stop? <;> simp

theorem reaches_iff_le : i.reaches first last ↔
    i.start ≤ last ∧ ∀ stop, i.stop? = some stop → first ≤ stop := by
  unfold reaches
  cases i.stop? <;> simp [and_comm]

/-- A timestamp in an interval with exact bounds is between them by its exact value. -/
theorem units_of_contains (exact : i.HasExactBounds) (inside : i.contains t) :
    i.start.toInt * Timestamp.unitsPerSecond ≤ t.units ∧
      ∀ stop, i.stop? = some stop → t.units ≤ stop.toInt * Timestamp.unitsPerSecond := by
  rw [contains_iff] at inside
  constructor
  · rw [← Timestamp.units_ofInt_of_le exact.1]
    exact (Timestamp.le_iff.mp inside.1).2
  · intro stop ends
    rw [← Timestamp.units_ofInt_of_le (exact.2 stop ends)]
    exact (Timestamp.le_iff.mp (inside.2 stop ends)).2

/-- What holds a timestamp of an interval reaches into the interval. -/
theorem reaches_of_contains (exact : i.HasExactBounds) (covers : chunk.Covers t)
    (inside : i.contains t) : i.reaches chunk.fileTime chunk.endTime := by
  have positive : (0 : ℤ) < Timestamp.unitsPerSecond := Int.natCast_pos.mpr (twoTo_pos 1074)
  obtain ⟨-, begun, lasting⟩ := covers
  obtain ⟨after, before⟩ := units_of_contains exact inside
  -- with exact bounds the timestamp separates whole seconds, so the unit can be divided out
  refine reaches_iff_le.mpr ⟨?_, fun stop ends => ?_⟩
  · have less := Int.lt_of_mul_lt_mul_right (after.trans_lt lasting) positive.le
    exact Int64.le_iff_toInt_le.mpr (Int.lt_add_one_iff.mp less)
  · exact Int64.le_iff_toInt_le.mpr
      (Int.le_of_mul_le_mul_right (begun.trans (before stop ends)) positive)

/-- A stretch reaches into an interval just if they have a second in common, if neither of them
ends before it starts. -/
theorem reaches_iff (forward : first ≤ last)
    (proper : ∀ stop, i.stop? = some stop → i.start ≤ stop) :
    i.reaches first last ↔ ∃ s, (first ≤ s ∧ s ≤ last) ∧ i.HasSecond s := by
  rw [reaches_iff_le]
  constructor
  · -- the later one of the two starts is in both
    rintro ⟨startLast, firstStop⟩
    have least {bound : Seconds} (hf : first ≤ bound) (hs : i.start ≤ bound) :
        first.later i.start ≤ bound := by
      rcases Seconds.later_eq_or first i.start with eq | eq <;> rwa [eq]
    exact ⟨first.later i.start, ⟨Seconds.le_later_left _ _, least forward startLast⟩,
      Seconds.le_later_right _ _, fun stop ends => least (firstStop stop ends) (proper stop ends)⟩
  · rintro ⟨s, ⟨firstS, sLast⟩, startS, sStop⟩
    exact ⟨Int64.le_trans startS sLast, fun stop ends => Int64.le_trans firstS (sStop stop ends)⟩

end Interval

namespace Criteria

variable {c : Criteria} {chunk : Chunk}

/-- The criteria on projects, collectors and kinds let a chunk through. -/
def AdmitsSource (c : Criteria) (chunk : Chunk) : Prop :=
  ∀ a ∈ Aspect.ofChunks, a.MetBy c.toList (Criterion.AdmitsChunk chunk)

/-- The bounds of the interval, if there is one, are doubles. -/
def HasExactBounds (c : Criteria) : Prop := ∀ i, c.interval? = some i → i.HasExactBounds

theorem acceptsTime_iff {t : Timestamp} :
    c.acceptsTime t ↔ ∀ i, c.interval? = some i → i.contains t := by
  unfold acceptsTime
  cases c.interval? <;> simp

/-- What is left of a record, the time of the record was in the interval. -/
theorem acceptsTime_of_screen {d rest : Decoded} (kept : c.screen d = some rest) :
    c.acceptsTime d.time := by
  rw [screen_eq, Option.ite_none_left_eq_some, not_or, Bool.not_eq_false] at kept
  exact kept.1.1

/-- Criteria that a feed may be started with have an interval that does not end before it starts. -/
theorem exists_interval_of_validate (valid : c.validate = .ok ()) :
    ∃ i, c.interval? = some i ∧ ∀ stop, i.stop? = some stop → i.start ≤ stop := by
  unfold validate at valid
  split at valid
  · contradiction
  · next start interval => exact ⟨_, interval, fun stop ends => nomatch ends⟩
  · next start stop interval =>
    split_ifs at valid with before
    refine ⟨_, interval, fun stop' ends => ?_⟩
    obtain rfl := Option.some.inj ends
    exact Int64.not_lt.mp before

/-- **Chunks that are left out have nothing to keep.** If the bounds of the interval are doubles, a
chunk whose project, collector and kind are asked for is let through as soon as one timestamp that
it covers is in the interval, so as soon as one record at such a time is kept. Criteria that a feed
may be started with let through just those of the chunks of which a second, from the first to the
last one covered, is in the interval, if the chunks do not end before they start. -/
theorem acceptsChunk_lossless (c : Criteria) (chunk : Chunk) :
    (c.HasExactBounds → c.AdmitsSource chunk →
      (∀ t, chunk.Covers t → c.acceptsTime t → c.acceptsChunk chunk) ∧
      ∀ d rest, chunk.Covers d.time → c.screen d = some rest → c.acceptsChunk chunk) ∧
    (c.validate = .ok () → 0 ≤ chunk.timeSpan →
      (c.acceptsChunk chunk ↔ c.AdmitsSource chunk ∧
        ∃ i s, c.interval? = some i ∧ chunk.CoversSecond s ∧ i.HasSecond s)) := by
  constructor
  · intro exact source
    have lossless (t : Timestamp) (covers : chunk.Covers t) (inside : c.acceptsTime t) :
        c.acceptsChunk chunk := by
      rw [acceptsTime_iff] at inside
      exact (acceptsChunk_iff chunk).mpr ⟨source, fun i interval =>
        Interval.reaches_of_contains (exact i interval) covers (inside i interval)⟩
    exact ⟨lossless, fun d rest covers kept =>
      lossless d.time covers (acceptsTime_of_screen kept)⟩
  · intro valid forward
    obtain ⟨i, interval, proper⟩ := exists_interval_of_validate valid
    have reaches := Interval.reaches_iff (Seconds.le_satAdd chunk.fileTime forward) proper
    rw [acceptsChunk_iff]
    refine and_congr_right fun _ => ?_
    simp only [interval, Option.some.injEq, forall_eq', exists_and_left, exists_eq_left']
    exact reaches

/-- Criteria on one collector and an interval. -/
def lateCriteria : Criteria := { collectors := ["rrc00"], interval? := some ⟨1000, some 2000⟩ }

/-- A chunk that ends in the first second of the interval. -/
def lateChunk : Chunk := ⟨"ris", "rrc00", .update, "late", 800, 200⟩

/-- Half a second after the start of the interval. -/
def lateTime : Timestamp := ⟨0x408F440000000000⟩

/-- The chunk covers a timestamp that is half a second after its last second, and is let through for
it; the second that it shares with the interval is its last one. -/
theorem acceptsChunk_lossless_late :
    lateCriteria.HasExactBounds ∧ lateCriteria.AdmitsSource lateChunk ∧
    lateChunk.Covers lateTime ∧ lateCriteria.acceptsTime lateTime ∧
    lateCriteria.screen ⟨lateTime, []⟩ = some ⟨lateTime, []⟩ ∧
    lateCriteria.validate = .ok () ∧ 0 ≤ lateChunk.timeSpan ∧
    lateCriteria.acceptsChunk lateChunk ∧
    ∃ i s, lateCriteria.interval? = some i ∧ lateChunk.CoversSecond s ∧ i.HasSecond s := by
  have exact : lateCriteria.HasExactBounds := by
    intro i interval
    obtain rfl := Option.some.inj interval
    refine ⟨by decide, fun stop ends => ?_⟩
    obtain rfl := Option.some.inj ends
    decide
  have source : lateCriteria.AdmitsSource lateChunk :=
    ((acceptsChunk_iff lateChunk).mp (by decide +kernel)).1
  have covers : lateChunk.Covers lateTime :=
    ⟨by decide +kernel, by decide +kernel, by decide +kernel⟩
  have inside : lateCriteria.acceptsTime lateTime := by decide +kernel
  have kept : lateCriteria.screen ⟨lateTime, []⟩ = some ⟨lateTime, []⟩ := by decide +kernel
  obtain ⟨lossless, tight⟩ := acceptsChunk_lossless lateCriteria lateChunk
  have accepted := (lossless exact source).1 lateTime covers inside
  exact ⟨exact, source, covers, inside, kept, rfl, by decide,
    (lossless exact source).2 _ _ covers kept, ((tight rfl (by decide)).mp accepted).2⟩

end Criteria

end RouteFeed
