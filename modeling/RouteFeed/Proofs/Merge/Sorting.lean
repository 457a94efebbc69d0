import Mathlib.Data.List.Induction
import RouteFeed.Proofs.Merge.Deliveries

/-!
# Merging is sorting

Under fixed criteria, draining a merge into which some chunks have been opened gives all of their
screened records, sorted by time, collector, the place of the chunk among those that were opened,
and the place of the record in its chunk. All that this needs is that each chunk is sorted by time
for itself.

The merge numbers its lanes, and a chunk that delivers nothing gets no lane; so its numbers are
those of the chunks in the list without some gaps, which leaves the order as it is.

## Main definitions

* `Opener.records`, `Opener.deliveries` — what one chunk and what several chunks deliver
* `Delivery.precedes` — the order by time, collector, chunk and place

## Main results

* `Merge.deliveries_add` — the lanes have to deliver what the chunks deliver
* `Merge.drain_add_eq_mergeSort` — draining delivers the sorted list
-/

namespace RouteFeed

namespace Opener

/-- The records that a chunk delivers under fixed criteria; none if it cannot be opened. -/
def records (opener : Opener) (c : Criteria) (chunk : Chunk) : List Record :=
  match opener chunk with
  | .error _ => []
  | .ok x => chunk.deliver 0 (x.screened c)

/-- What chunks deliver under fixed criteria; the number of a dump is its place in the list. -/
def deliveries (opener : Opener) (c : Criteria) (chunks : List Chunk) : List Delivery :=
  chunks.zipIdx.flatMap fun (chunk, k) => Delivery.ofRecords k 0 (opener.records c chunk)

variable {opener : Opener} {c : Criteria} {chunk : Chunk} {chunks : List Chunk}

theorem deliveries_concat (opener : Opener) (c : Criteria) (chunks : List Chunk) (chunk : Chunk) :
    opener.deliveries c (chunks ++ [chunk]) = opener.deliveries c chunks ++
      Delivery.ofRecords chunks.length 0 (opener.records c chunk) := by
  simp [deliveries, List.zipIdx_append]

/-- A delivery stands at its place among the records of the chunk of its number. -/
theorem exists_of_mem_deliveries {d : Delivery} (hd : d ∈ opener.deliveries c chunks) :
    ∃ chunk, chunks[d.number]? = some chunk ∧
      (opener.records c chunk)[d.place]? = some d.record := by
  obtain ⟨⟨chunk, k⟩, hchunk, hd⟩ := List.mem_flatMap.mp hd
  obtain ⟨⟨r, i⟩, hr, rfl⟩ := List.mem_map.mp hd
  exact ⟨chunk, List.mem_zipIdx_iff_getElem?.mp hchunk, List.mem_zipIdx_iff_getElem?.mp hr⟩

theorem eq_of_mem_deliveries {d d' : Delivery} (hd : d ∈ opener.deliveries c chunks)
    (hd' : d' ∈ opener.deliveries c chunks) (number : d.number = d'.number)
    (place : d.place = d'.place) : d = d' := by
  obtain ⟨chunk, hchunk, hrecord⟩ := exists_of_mem_deliveries hd
  obtain ⟨chunk', hchunk', hrecord'⟩ := exists_of_mem_deliveries hd'
  rw [number, hchunk', Option.some.injEq] at hchunk
  rw [place, ← hchunk, hrecord', Option.some.injEq] at hrecord
  obtain ⟨r, k, i⟩ := d
  obtain ⟨r', k', i'⟩ := d'
  simp_all

/-! ## The numbers of lanes -/

/-- The number that the merge gives to the chunk at a place of the list, if the chunk gets a lane:
the chunks in front of it that deliver nothing are not counted. -/
def laneNumber (opener : Opener) (c : Criteria) (chunks : List Chunk) (first k : ℕ) : ℕ :=
  first + (chunks.take k).countP fun chunk => opener.records c chunk ≠ []

theorem laneNumber_concat {k : ℕ} (hk : k ≤ chunks.length) (first : ℕ) :
    opener.laneNumber c (chunks ++ [chunk]) first k = opener.laneNumber c chunks first k := by
  simp [laneNumber, List.take_append_of_le_length hk]

/-- A chunk that delivers something is counted. -/
theorem laneNumber_lt {k k' : ℕ} (first : ℕ) (hchunk : chunks[k]? = some chunk)
    (some_record : opener.records c chunk ≠ []) (hk : k < k') :
    opener.laneNumber c chunks first k < opener.laneNumber c chunks first k' := by
  have upTo : chunks.take (k + 1) = chunks.take k ++ [chunk] := by
    simp [List.take_add_one, hchunk]
  have counted : (chunks.take (k + 1)).countP (fun chunk => opener.records c chunk ≠ []) =
      (chunks.take k).countP (fun chunk => opener.records c chunk ≠ []) + 1 := by
    simp [upTo, some_record]
  have grows := ((List.take_sublist_take_left hk : (chunks.take (k + 1)).Sublist _)).countP_le
    (p := fun chunk => decide (opener.records c chunk ≠ []))
  simp only [laneNumber]
  omega

end Opener

namespace Delivery

/-- The order by time, collector, number and place. -/
def precedes (x y : Delivery) : Bool := x.key ≤ y.key

theorem pairwise_mergeSort (ds : List Delivery) :
    (ds.mergeSort precedes).Pairwise fun x y => x.key ≤ y.key := by
  have sorted := @List.pairwise_mergeSort _ precedes
    (fun x y z hxy hyz => decide_eq_true ((of_decide_eq_true hxy).trans (of_decide_eq_true hyz)))
    (fun x y => by simpa [precedes] using le_total x.key y.key) ds
  exact sorted.imp of_decide_eq_true

theorem number_eq_of_key_eq {x y : Delivery} (h : x.key = y.key) :
    x.number = y.number ∧ x.place = y.place := by
  simp only [key, toLex_inj, Prod.mk.injEq] at h
  exact h.2.2

/-- A delivery under another number. -/
def renumber (f : ℕ → ℕ) (d : Delivery) : Delivery := { d with number := f d.number }

theorem map_renumber_ofRecords (f : ℕ → ℕ) (number place : ℕ) (rs : List Record) :
    (ofRecords number place rs).map (renumber f) = ofRecords (f number) place rs := by
  simp [ofRecords, renumber]

theorem key_renumber_le {f : ℕ → ℕ} {x y : Delivery} (h : x.key ≤ y.key)
    (mono : x.number < y.number → f x.number < f y.number) :
    (x.renumber f).key ≤ (y.renumber f).key := by
  rw [key_le_iff] at h ⊢
  rcases h with time | ⟨time, collector | ⟨collector, number | ⟨number, place⟩⟩⟩
  · exact .inl time
  · exact .inr ⟨time, .inl collector⟩
  · exact .inr ⟨time, .inr ⟨collector, .inl (mono number)⟩⟩
  · exact .inr ⟨time, .inr ⟨collector, .inr ⟨congrArg f number, place⟩⟩⟩

end Delivery

namespace Merge

variable {c : Criteria}

theorem add_concat (c : Criteria) (chunks : List Chunk) (chunk : Chunk) (m : Merge) :
    m.add c (chunks ++ [chunk]) = (m.add c chunks).addChunk c chunk := by
  simp [add]

/-- Opening a chunk adds the records that the chunk delivers, under the next number. -/
theorem deliveries_opened? (c : Criteria) (m : Merge) (chunk : Chunk) :
    (m.opened? c chunk).toList.flatMap (Lane.deliveries c) =
      Delivery.ofRecords m.nextNumber 0 (m.opener.records c chunk) := by
  unfold opened? Opener.records
  cases m.opener chunk with
  | error e => rfl
  | ok x =>
    dsimp only
    cases h : x.lane? c chunk m.nextNumber 0 with
    | none =>
      rw [(Contents.screened_of_lane?_eq_none h).1]
      rfl
    | some l =>
      obtain ⟨pulled, lane, -⟩ := Contents.pull_of_lane? h
      rw [Contents.screened_of_found pulled, Option.toList_some, List.flatMap_singleton, lane]
      rfl

/-- Opening a chunk uses up a number exactly if the chunk delivers something. -/
theorem length_opened? (c : Criteria) (m : Merge) (chunk : Chunk) :
    (m.opened? c chunk).toList.length =
      [chunk].countP fun chunk => m.opener.records c chunk ≠ [] := by
  have delivered := deliveries_opened? c m chunk
  cases ho : m.opened? c chunk with
  | none =>
    rw [ho, Option.toList_none, List.flatMap_nil] at delivered
    simp [Delivery.ofRecords_eq_nil_iff.mp delivered.symm]
  | some l =>
    have something : m.opener.records c chunk ≠ [] := by
      rw [ho, Option.toList_some, List.flatMap_singleton, l.deliveries_eq c] at delivered
      exact fun nothing => List.cons_ne_nil _ _
        (delivered.trans (Delivery.ofRecords_eq_nil_iff.mpr nothing))
    simp [something]

/-- After chunks have been opened the lanes have to deliver what the chunks deliver, under the
numbers of the lanes. -/
theorem deliveries_add (c : Criteria) (chunks : List Chunk) (m : Merge) :
    (m.add c chunks).lanes.flatMap (Lane.deliveries c) =
        m.lanes.flatMap (Lane.deliveries c) ++ (m.opener.deliveries c chunks).map
          (Delivery.renumber (m.opener.laneNumber c chunks m.nextNumber)) ∧
      (m.add c chunks).nextNumber =
        m.opener.laneNumber c chunks m.nextNumber chunks.length := by
  induction chunks using List.reverseRecOn with
  | nil => exact ⟨by simp [add, Opener.deliveries], by simp [add, Opener.laneNumber]⟩
  | append_singleton chunks chunk ih =>
    obtain ⟨lanes, next⟩ := ih
    -- one chunk more behind the others changes none of their numbers
    have old : (m.opener.deliveries c chunks).map (Delivery.renumber
          (m.opener.laneNumber c (chunks ++ [chunk]) m.nextNumber)) =
        (m.opener.deliveries c chunks).map (Delivery.renumber
          (m.opener.laneNumber c chunks m.nextNumber)) := by
      refine List.map_congr_left fun d hd => ?_
      obtain ⟨_, hchunk, -⟩ := Opener.exists_of_mem_deliveries hd
      have inside := (List.getElem?_eq_some_iff.mp hchunk).1
      rw [Delivery.renumber, Delivery.renumber, Opener.laneNumber_concat inside.le]
    constructor
    · rw [add_concat, addChunk_eq, List.flatMap_append, lanes, deliveries_opened?, next,
        opener_add, Opener.deliveries_concat, List.map_append, old,
        Delivery.map_renumber_ofRecords, Opener.laneNumber_concat le_rfl, List.append_assoc]
    · rw [add_concat, addChunk_eq]
      simp only [next, length_opened?, opener_add, Opener.laneNumber, List.take_length,
        List.countP_append, Nat.add_assoc]

/-! ## Sorting -/

/-- The lanes that are open have been open before, or have to deliver what some chunk delivers. -/
theorem deliveries_of_mem_add {chunks : List Chunk} {m : Merge} {l : Lane}
    (hl : l ∈ (m.add c chunks).lanes) :
    l ∈ m.lanes ∨ ∃ chunk ∈ chunks, ∃ number,
      l.deliveries c = Delivery.ofRecords number 0 (m.opener.records c chunk) := by
  induction chunks using List.reverseRecOn with
  | nil => exact .inl hl
  | append_singleton chunks chunk ih =>
    rw [add_concat, addChunk_eq] at hl
    rcases List.mem_append.mp hl with old | new
    · rcases ih old with before | ⟨chunk', hchunk', number, eq⟩
      · exact .inl before
      · exact .inr ⟨chunk', List.mem_append_left _ hchunk', number, eq⟩
    · have delivered := deliveries_opened? c (m.add c chunks) chunk
      rw [Option.mem_toList] at new
      rw [new, Option.toList_some, List.flatMap_singleton, opener_add] at delivered
      exact .inr ⟨chunk, by simp, _, delivered⟩

/-- Records of one chunk that are sorted by time are sorted as deliveries. -/
theorem pairwise_key_of_sorted {opener : Opener} {chunk : Chunk} (number : ℕ)
    (sorted : ∀ x, opener chunk = .ok x →
      (x.screened c).Pairwise fun d e => d.time.orderKey ≤ e.time.orderKey) :
    (Delivery.ofRecords number 0 (opener.records c chunk)).Pairwise fun x y => x.key ≤ y.key := by
  unfold Opener.records
  cases ho : opener chunk with
  | error e => exact .nil
  | ok x =>
    have same : ∀ r ∈ chunk.deliver 0 (x.screened c), r.collector = chunk.collector := by
      intro r hr
      obtain ⟨d, -, position, rfl⟩ := chunk.exists_of_mem_deliver 0 hr
      rfl
    have times : ((chunk.deliver 0 (x.screened c)).map Record.time).Pairwise
        fun s t => s.orderKey ≤ t.orderKey := by
      rw [Chunk.deliver_map_time]
      exact List.pairwise_map.mpr (sorted x ho)
    rw [List.pairwise_map] at times
    exact Delivery.pairwise_ofRecords number 0 same times

/-- Deliveries that are in order under other numbers, which are in the order of the old ones, are
the sorted deliveries under these numbers. -/
theorem eq_map_renumber {opener : Opener} {chunks : List Chunk} {ds : List Delivery} {f : ℕ → ℕ}
    (perm : ds.Perm ((opener.deliveries c chunks).map (Delivery.renumber f)))
    (ordered : ds.Pairwise fun x y => x.key ≤ y.key)
    (mono : ∀ x ∈ opener.deliveries c chunks, ∀ k, x.number < k → f x.number < f k) :
    ds = ((opener.deliveries c chunks).mergeSort Delivery.precedes).map (Delivery.renumber f) := by
  have same := List.mergeSort_perm (opener.deliveries c chunks) Delivery.precedes
  have sorted := Delivery.pairwise_mergeSort (opener.deliveries c chunks)
  generalize (opener.deliveries c chunks).mergeSort Delivery.precedes = target at same sorted ⊢
  have perm' : ds.Perm (target.map (Delivery.renumber f)) := perm.trans (same.symm.map _)
  have ordered' : (target.map (Delivery.renumber f)).Pairwise fun x y => x.key ≤ y.key := by
    refine List.pairwise_map.mpr (sorted.imp_of_mem fun {x y} hx _ h => ?_)
    exact Delivery.key_renumber_le h (mono x (same.subset hx) _)
  -- two deliveries with one key come from one place of one chunk
  have unique : ∀ x y, x ∈ ds → y ∈ target.map (Delivery.renumber f) → x.key ≤ y.key →
      y.key ≤ x.key → x = y := by
    intro x y hx hy hxy hyx
    obtain ⟨x, inX, rfl⟩ := List.mem_map.mp (perm.subset hx)
    obtain ⟨y, inY, rfl⟩ := List.mem_map.mp hy
    have inY := same.subset inY
    obtain ⟨number, place⟩ := Delivery.number_eq_of_key_eq (le_antisymm hxy hyx)
    have number : x.number = y.number := by
      rcases lt_trichotomy x.number y.number with lt | eq | gt
      · exact absurd number (mono x inX _ lt).ne
      · exact eq
      · exact absurd number (mono y inY _ gt).ne'
    rw [Opener.eq_of_mem_deliveries inX inY number place]
  exact List.Perm.eq_of_pairwise unique ordered ordered' perm'

/-- Sorting what some chunks deliver gives a list in order with the same members. -/
theorem mergeSort_eq_of_perm {opener : Opener} {chunks : List Chunk} {ds : List Delivery}
    (perm : ds.Perm (opener.deliveries c chunks)) (ordered : ds.Pairwise fun x y => x.key ≤ y.key) :
    (opener.deliveries c chunks).mergeSort Delivery.precedes = ds := by
  have same : Delivery.renumber id = id := rfl
  have sorted := eq_map_renumber (f := id) (by rwa [same, List.map_id]) ordered fun _ _ _ h => h
  rw [sorted, same, List.map_id]

/-- **Merging is sorting.** If each chunk that opens is sorted by time after screening, a merge that
starts empty delivers what the chunks deliver, sorted by time in the total order of timestamps,
collector, place of the chunk, and place in the chunk. -/
theorem drain_add_eq_mergeSort (c : Criteria) (chunks : List Chunk) (m : Merge)
    (empty : m.isEmpty)
    (sorted : ∀ chunk ∈ chunks, ∀ x, m.opener chunk = .ok x →
      (x.screened c).Pairwise fun d e => d.time.orderKey ≤ e.time.orderKey) :
    recordsOf ((m.add c chunks).drain c) =
      ((m.opener.deliveries c chunks).mergeSort Delivery.precedes).map Delivery.record := by
  have noLanes : m.lanes = [] := (isEmpty_iff.mp empty).1
  have sortedLanes : ∀ l ∈ (m.add c chunks).lanes,
      (l.deliveries c).Pairwise fun x y => x.key ≤ y.key := by
    intro l hl
    rcases deliveries_of_mem_add hl with old | ⟨chunk, hchunk, number, eq⟩
    · simp [noLanes] at old
    · rw [eq]
      exact pairwise_key_of_sorted number (sorted chunk hchunk)
  obtain ⟨ds, records, perm, ordered⟩ := exists_deliveries Delivery.agrees_key
    (numbered_add chunks (.of_lanes_eq_nil noLanes)) sortedLanes
  rw [(deliveries_add c chunks m).1, noLanes] at perm
  rw [← records, eq_map_renumber perm ordered, List.map_map]
  · rfl
  · intro x hx k hk
    obtain ⟨chunk, hchunk, hrecord⟩ := Opener.exists_of_mem_deliveries hx
    exact Opener.laneNumber_lt _ hchunk (List.ne_nil_of_mem (List.mem_of_getElem? hrecord)) hk

/-- The two negative zeros are delivered in the order of the collectors, the equal times of one
collector in the order of the chunks, and the value that is not a number at last. -/
theorem drain_add_samples :
    (recordsOf ((({ opener := Opener.sample } : Merge).add {} Chunk.samples).drain {})).map
        (fun r => (r.locator, r.time.bits)) =
      [("torn", 0x8000000000000000), ("wide", 0x8000000000000000), ("torn", 0), ("late", 0),
        ("wide", 0x7FF8000000000000)] := by
  have sorted : ∀ chunk ∈ Chunk.samples, ∀ x, Opener.sample chunk = .ok x →
      (x.screened {}).Pairwise fun d e => d.time.orderKey ≤ e.time.orderKey := by
    intro chunk hchunk x hx
    simp only [Chunk.samples, List.mem_cons, List.not_mem_nil, or_false] at hchunk
    rcases hchunk with rfl | rfl | rfl | rfl <;> cases hx <;> decide
  have perm : ([2, 0, 3, 4, 1].filterMap ((Opener.sample.deliveries {} Chunk.samples)[·]?)).Perm
      (Opener.sample.deliveries {} Chunk.samples) := by decide +kernel
  rw [drain_add_eq_mergeSort {} Chunk.samples { opener := Opener.sample } rfl sorted,
    mergeSort_eq_of_perm perm (by decide +kernel)]
  decide +kernel

end Merge

end RouteFeed
