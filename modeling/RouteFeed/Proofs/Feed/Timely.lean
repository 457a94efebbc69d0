import RouteFeed.Proofs.Feed.Unloading
import RouteFeed.Proofs.Merge.Sorting
import RouteFeed.Proofs.Timestamp.Rounding

/-!
# The order of times in a backlog

If the records of every chunk are in the order of their times, and none lies outside of what the
chunk covers, then reading a sorted backlog through delivers in the order of times. Inside a batch
this is the work of the merge. From one batch to the next it is the work of the batches: no chunk
behind a batch begins before the cover of each chunk in the batch is over.

## Main definitions

* `Opener.KeepsTime` — the records of a chunk are in order and in its cover
* `Timely` — what a merge holds comes before what waits

## Main results

* `Timely.openBatch` — opening the next batch keeps to the times
* `Timely.pairwise_of_unloads` — reading a backlog through
-/

namespace RouteFeed

/-- The records of a chunk up to its first failure are in the order of their times, and none of them
lies outside of what the chunk covers. The ends of the cover are taken as timestamps, as those of an
interval are. -/
def Opener.KeepsTime (opener : Opener) (chunk : Chunk) : Prop :=
  ∀ x, opener chunk = .ok x → (x.records.Pairwise fun d e => d.time.le e.time) ∧
    ∀ d ∈ x.records, (Interval.mk chunk.fileTime (some (Backlog.coverEnd chunk))).contains d.time

/-! ## Inside a chunk -/

/-- The criteria do not change the time of a record. -/
theorem Criteria.time_of_screen {c : Criteria} {d kept : Decoded} (h : c.screen d = some kept) :
    kept.time = d.time := by
  unfold screen at h
  split_ifs at h
  · dsimp only at h
    split_ifs at h
    rw [← Option.some.inj h]
  · rw [← Option.some.inj h]

theorem Contents.map_time_screened (c : Criteria) (x : Contents) :
    ((x.screened c).map Decoded.time).Sublist (x.records.map Decoded.time) := by
  unfold screened
  induction x.records with
  | nil => exact .slnil
  | cons d ds ih =>
    rw [List.filterMap_cons]
    cases hd : c.screen d with
    | none => exact ih.cons d.time
    | some kept =>
      rw [List.map_cons, List.map_cons, Criteria.time_of_screen hd]
      exact ih.cons_cons d.time

namespace Opener.KeepsTime

variable {opener : Opener} {chunk : Chunk}

/-- It makes no difference whether the ends of the cover are rounded to timestamps before they are
compared, or not: a chunk that keeps to the exact ends keeps to the rounded ones. -/
theorem of_exact
    (ordered : ∀ x, opener chunk = .ok x → x.records.Pairwise fun d e => d.time.le e.time)
    (covered : ∀ x, opener chunk = .ok x → ∀ d ∈ x.records, d.time.isNaN = false ∧
      chunk.fileTime.toInt * Timestamp.unitsPerSecond ≤ d.time.units ∧
        d.time.units ≤ (Backlog.coverEnd chunk).toInt * Timestamp.unitsPerSecond) :
    opener.KeepsTime chunk := by
  intro x opens
  refine ⟨ordered x opens, fun d hd => ?_⟩
  obtain ⟨number, begun, lasting⟩ := covered x opens d hd
  exact Interval.contains_of_exact number begun lasting

/-- What a chunk delivers is in the order of times and in the cover of the chunk. -/
theorem records (keeps : opener.KeepsTime chunk) (c : Criteria) :
    ((opener.records c chunk).Pairwise fun r s => r.time.le s.time) ∧
      ∀ r ∈ opener.records c chunk, (Interval.bound chunk.fileTime).le r.time ∧
        r.time.le (Interval.bound (Backlog.coverEnd chunk)) := by
  unfold Opener.records
  cases opens : opener chunk with
  | error e => simp
  | ok x =>
    obtain ⟨ordered, covered⟩ := keeps x opens
    have times := x.map_time_screened c
    rw [← chunk.deliver_map_time 0] at times
    constructor
    · rw [← List.pairwise_map (f := Decoded.time) (R := fun s t => s.le t)] at ordered
      rw [← List.pairwise_map (f := Record.time) (R := fun s t => s.le t)]
      exact ordered.sublist times
    · intro r hr
      obtain ⟨d, hd, same⟩ := List.mem_map.mp (times.subset (List.mem_map_of_mem hr))
      have inside := covered d hd
      rwa [Interval.contains, Bool.and_eq_true, same] at inside

end Opener.KeepsTime

theorem Delivery.map_record_ofRecords (number place : ℕ) (rs : List Record) :
    (ofRecords number place rs).map Delivery.record = rs := by
  induction rs generalizing place with
  | nil => rfl
  | cons r rs ih => rw [ofRecords_cons, List.map_cons, ih]

/-- The order of deliveries by the values of their times agrees with the order of lanes. -/
theorem Delivery.agrees_units : Agrees fun x y => x.record.time.units ≤ y.record.time.units where
  trans := Int.le_trans
  of_laneKey_le _ h := Timestamp.units_le_of_orderKey_le (orderKey_le_of_laneKey_le h)

/-! ## Inside a backlog -/

/-- What a merge holds is in the order of times and comes before the chunks that wait, which are in
the order of times, too. -/
structure Timely (c : Criteria) (m : Merge) (b : Backlog) : Prop where
  /-- Different lanes have different numbers. -/
  numbered : m.Numbered
  /-- What a lane has to deliver is in the order of times. -/
  ordered : ∀ l ∈ m.lanes, (l.deliveries c).Pairwise fun x y => x.record.time.le y.record.time
  /-- It is not later than the start of any chunk that waits. -/
  before : ∀ l ∈ m.lanes, ∀ x ∈ l.deliveries c, x.record.time.isNaN = false ∧
    ∀ chunk ∈ b, x.record.time.le (Interval.bound chunk.fileTime)
  /-- The chunks that wait are in the order of times. -/
  sorted : Chunk.SortedByTime b
  /-- Each of them keeps to its cover. -/
  keepsTime : ∀ chunk ∈ b, m.opener.KeepsTime chunk

namespace Timely

variable {c : Criteria} {m empty : Merge} {b : Backlog} {results : List (Except FeedError Record)}

/-- Nothing comes before the chunks that wait when the merge is empty. -/
theorem of_isEmpty (isEmpty : m.isEmpty) (sorted : Chunk.SortedByTime b)
    (keepsTime : ∀ chunk ∈ b, m.opener.KeepsTime chunk) : Timely c m b := by
  have noLanes := (Merge.isEmpty_iff.mp isEmpty).1
  refine ⟨.of_lanes_eq_nil noLanes, ?_, ?_, sorted, keepsTime⟩
  · simp [noLanes]
  · simp [noLanes]

/-- When the next batch is opened, a lane delivers in the order of times what one of its chunks
delivers, which lies in the cover of this chunk. -/
theorem deliveries_openBatch (timely : Timely c m b) (isEmpty : empty.isEmpty)
    (opener : empty.opener = m.opener) {l : Lane} (hl : l ∈ (empty.add c b.batch).lanes) :
    ((l.deliveries c).Pairwise fun x y => x.record.time.le y.record.time) ∧
      ∃ chunk ∈ b.batch, ∀ x ∈ l.deliveries c,
        (Interval.bound chunk.fileTime).le x.record.time ∧
          x.record.time.le (Interval.bound (Backlog.coverEnd chunk)) := by
  rcases Merge.deliveries_of_mem_add hl with old | ⟨chunk, hchunk, number, eq⟩
  · simp [(Merge.isEmpty_iff.mp isEmpty).1] at old
  · have keeps := timely.keepsTime chunk (b.batch_isPrefix.subset hchunk)
    obtain ⟨ordered, covered⟩ := keeps.records c
    rw [opener] at eq
    have same : (l.deliveries c).map Delivery.record = m.opener.records c chunk := by
      rw [eq, Delivery.map_record_ofRecords]
    rw [← same] at ordered covered
    exact ⟨List.pairwise_map.mp ordered, chunk, hchunk,
      fun x hx => covered _ (List.mem_map_of_mem hx)⟩

/-- When the next batch is opened, what it delivers comes before the chunks behind the batch. -/
theorem openBatch (timely : Timely c m b) (isEmpty : empty.isEmpty)
    (opener : empty.opener = m.opener) :
    Timely c (empty.add c b.batch) (b.drop b.batch.length) := by
  have noLanes := (Merge.isEmpty_iff.mp isEmpty).1
  refine ⟨Merge.numbered_add _ (.of_lanes_eq_nil noLanes), ?_, ?_, ?_, ?_⟩
  · exact fun l hl => (timely.deliveries_openBatch isEmpty opener hl).1
  · intro l hl x hx
    obtain ⟨-, chunk, hchunk, covered⟩ := timely.deliveries_openBatch isEmpty opener hl
    have covered := covered x hx
    refine ⟨(Timestamp.le_iff.mp covered.2).1.1, fun later hlater => ?_⟩
    -- no record of the batch is later than the cover of its chunk, and that is over
    have ended := Backlog.coverEnd_le_of_mem_batch timely.sorted hchunk hlater
    refine Timestamp.le_trans covered.2 (Timestamp.le_iff.mpr ⟨⟨?_, ?_⟩, ?_⟩)
    · exact Timestamp.isNaN_ofInt _
    · exact Timestamp.isNaN_ofInt _
    · exact Timestamp.units_ofInt_mono (Int64.le_iff_toInt_le.mp ended)
  · exact timely.sorted.sublist (List.drop_sublist _ _)
  · intro chunk hchunk
    rw [Merge.opener_add, opener]
    exact timely.keepsTime chunk (List.mem_of_mem_drop hchunk)

/-- Draining delivers what the lanes have to deliver, in the order of times. -/
theorem pairwise_drain (timely : Timely c m b) :
    ((recordsOf (m.drain c)).Pairwise fun r s => r.time.le s.time) ∧
      ∀ r ∈ recordsOf (m.drain c), ∃ l ∈ m.lanes, ∃ x ∈ l.deliveries c, x.record = r := by
  -- the merge knows the total order of timestamps, which agrees with the order of their values
  have ordered : ∀ l ∈ m.lanes, (l.deliveries c).Pairwise
      fun x y => x.record.time.units ≤ y.record.time.units :=
    fun l hl => (timely.ordered l hl).imp fun h => (Timestamp.le_iff.mp h).2
  obtain ⟨ds, records, perm, sorted⟩ :=
    Merge.exists_deliveries Delivery.agrees_units timely.numbered ordered
  have number : ∀ x ∈ ds, x.record.time.isNaN = false := by
    intro x hx
    obtain ⟨l, hl, hx⟩ := List.mem_flatMap.mp (perm.subset hx)
    exact (timely.before l hl x hx).1
  rw [← records]
  constructor
  · rw [List.pairwise_map]
    exact sorted.imp_of_mem fun hx hy units =>
      Timestamp.le_iff.mpr ⟨⟨number _ hx, number _ hy⟩, units⟩
  · intro r hr
    obtain ⟨x, hx, same⟩ := List.mem_map.mp hr
    obtain ⟨l, hl, hx⟩ := List.mem_flatMap.mp (perm.subset hx)
    exact ⟨l, hl, x, hx, same⟩

/-- Reading a backlog through delivers in the order of times. -/
theorem pairwise_of_unloads (h : Unloads c m b results) (timely : Timely c m b) :
    ((recordsOf results).Pairwise fun r s => r.time.le s.time) ∧
      ∀ r ∈ recordsOf results, (∃ l ∈ m.lanes, ∃ x ∈ l.deliveries c, x.record = r) ∨
        ∃ chunk ∈ b, (Interval.bound chunk.fileTime).le r.time := by
  induction h with
  | last m => exact ⟨timely.pairwise_drain.1, fun r hr => .inl (timely.pairwise_drain.2 r hr)⟩
  | @batch m empty b results some_chunk isEmpty opener others ih =>
    obtain ⟨first, held⟩ := timely.pairwise_drain
    obtain ⟨second, waited⟩ := ih (timely.openBatch isEmpty opener)
    -- what comes behind the merge begins with some chunk that has waited
    have begun : ∀ s ∈ recordsOf results,
        ∃ chunk ∈ b, (Interval.bound chunk.fileTime).le s.time := by
      intro s hs
      rcases waited s hs with ⟨l, hl, x, hx, rfl⟩ | ⟨chunk, hchunk, begun⟩
      · obtain ⟨-, chunk, hchunk, covered⟩ := timely.deliveries_openBatch isEmpty opener hl
        exact ⟨chunk, b.batch_isPrefix.subset hchunk, (covered x hx).1⟩
      · exact ⟨chunk, List.mem_of_mem_drop hchunk, begun⟩
    rw [recordsOf_append]
    constructor
    · refine List.pairwise_append.mpr ⟨first, second, fun r hr s hs => ?_⟩
      obtain ⟨l, hl, x, hx, rfl⟩ := held r hr
      obtain ⟨chunk, hchunk, begun⟩ := begun s hs
      exact Timestamp.le_trans ((timely.before l hl x hx).2 chunk hchunk) begun
    · intro r hr
      rcases List.mem_append.mp hr with hr | hr
      · exact .inl (held r hr)
      · exact .inr (begun r hr)

end Timely

end RouteFeed
