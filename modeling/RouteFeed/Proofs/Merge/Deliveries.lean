import Mathlib.Data.List.Nodup
import RouteFeed.Proofs.Merge.Drain

/-!
# Deliveries in order

A *delivery* is a record together with the number of the dump that it comes from and its place among
the records that this dump delivers. A merge whose lanes have different numbers delivers the records
of its lanes in any order that agrees with the order of lanes and in which each lane is sorted. This
is the one property of the merge that all statements about its order rest on.

## Main definitions

* `Delivery`, `Delivery.key` — a record, and what deliveries are compared by
* `Delivery.Agrees` — an order of deliveries agrees with that of lanes
* `Lane.deliveries` — what a lane has still to deliver
* `Merge.Numbered` — different lanes have different numbers
* `recordsOf` — the records among some results

## Main results

* `Merge.numbered_add` — opening chunks gives numbers that are not in use
* `Merge.exists_deliveries` — draining delivers in every order that agrees with that of lanes
-/

namespace RouteFeed

/-- The records among some results. -/
def recordsOf (results : List (Except FeedError Record)) : List Record :=
  results.filterMap Except.toOption

@[simp] theorem recordsOf_nil : recordsOf [] = [] := rfl

@[simp] theorem recordsOf_ok (r : Record) (rs : List (Except FeedError Record)) :
    recordsOf (.ok r :: rs) = r :: recordsOf rs := rfl

@[simp] theorem recordsOf_error (e : FeedError) (rs : List (Except FeedError Record)) :
    recordsOf (.error e :: rs) = recordsOf rs := rfl

@[simp] theorem recordsOf_append (rs rs' : List (Except FeedError Record)) :
    recordsOf (rs ++ rs') = recordsOf rs ++ recordsOf rs' := List.filterMap_append

/-- A record with the number of its dump and its place among what the dump delivers. -/
structure Delivery where
  /-- The record. -/
  record : Record
  /-- The number of the dump. -/
  number : ℕ
  /-- The number of records that the dump delivers before. -/
  place : ℕ
deriving DecidableEq

namespace Delivery

/-- What deliveries are compared by: time, collector, number and place. -/
def key (d : Delivery) : ℤ ×ₗ String ×ₗ ℕ ×ₗ ℕ :=
  toLex (d.record.time.orderKey, toLex (d.record.collector, toLex (d.number, d.place)))

/-- What lanes are compared by when this is the next delivery. -/
def laneKey (d : Delivery) : ℤ ×ₗ String ×ₗ ℕ :=
  toLex (d.record.time.orderKey, toLex (d.record.collector, d.number))

variable {x y : Delivery}

theorem key_le_iff :
    x.key ≤ y.key ↔ x.record.time.orderKey < y.record.time.orderKey ∨
      x.record.time.orderKey = y.record.time.orderKey ∧
        (x.record.collector < y.record.collector ∨ x.record.collector = y.record.collector ∧
          (x.number < y.number ∨ x.number = y.number ∧ x.place ≤ y.place)) := by
  simp only [key, Prod.Lex.toLex_le_toLex]

theorem laneKey_le_iff :
    x.laneKey ≤ y.laneKey ↔ x.record.time.orderKey < y.record.time.orderKey ∨
      x.record.time.orderKey = y.record.time.orderKey ∧
        (x.record.collector < y.record.collector ∨ x.record.collector = y.record.collector ∧
          x.number ≤ y.number) := by
  simp only [laneKey, Prod.Lex.toLex_le_toLex]

/-- Deliveries of different dumps are compared like lanes. -/
theorem key_le_of_laneKey_le (different : x.number ≠ y.number) (h : x.laneKey ≤ y.laneKey) :
    x.key ≤ y.key := by
  rw [laneKey_le_iff] at h
  rw [key_le_iff]
  rcases h with time | ⟨time, collector | ⟨collector, number⟩⟩
  · exact .inl time
  · exact .inr ⟨time, .inl collector⟩
  · exact .inr ⟨time, .inr ⟨collector, .inl (lt_of_le_of_ne number different)⟩⟩

/-- An order of deliveries that agrees with the order of lanes. -/
structure Agrees (S : Delivery → Delivery → Prop) : Prop where
  /-- The order is transitive. -/
  trans : ∀ {x y z}, S x y → S y z → S x z
  /-- Deliveries of different dumps are in order if their lanes are. -/
  of_laneKey_le : ∀ {x y : Delivery}, x.number ≠ y.number → x.laneKey ≤ y.laneKey → S x y

theorem agrees_key : Agrees fun x y => x.key ≤ y.key := ⟨le_trans, key_le_of_laneKey_le⟩

theorem orderKey_le_of_laneKey_le (h : x.laneKey ≤ y.laneKey) :
    x.record.time.orderKey ≤ y.record.time.orderKey := by
  rw [laneKey_le_iff] at h
  rcases h with time | ⟨time, -⟩
  · exact time.le
  · exact time.le

/-- The records of a dump as deliveries, when so many were delivered before them. -/
def ofRecords (number place : ℕ) (rs : List Record) : List Delivery :=
  (rs.zipIdx place).map fun (r, i) => ⟨r, number, i⟩

theorem ofRecords_cons (number place : ℕ) (r : Record) (rs : List Record) :
    ofRecords number place (r :: rs) = ⟨r, number, place⟩ :: ofRecords number (place + 1) rs := rfl

theorem ofRecords_eq_nil_iff {number place : ℕ} {rs : List Record} :
    ofRecords number place rs = [] ↔ rs = [] := by
  rw [ofRecords, List.map_eq_nil_iff, List.zipIdx_eq_nil_iff]

/-- The records of a dump are sorted as deliveries if their times are sorted. -/
theorem pairwise_ofRecords {collector : String} {rs : List Record} (number place : ℕ)
    (same : ∀ r ∈ rs, r.collector = collector)
    (sorted : rs.Pairwise fun r s => r.time.orderKey ≤ s.time.orderKey) :
    (ofRecords number place rs).Pairwise fun x y => x.key ≤ y.key := by
  have numbered : (ofRecords number place rs).Pairwise fun x y =>
      x.record.time.orderKey ≤ y.record.time.orderKey ∧ x.place < y.place := by
    induction rs generalizing place with
    | nil => exact .nil
    | cons r rs ih =>
      obtain ⟨first, others⟩ := List.pairwise_cons.mp sorted
      refine .cons (fun y hy => ?_) (ih (place + 1) (fun s hs => same s (.tail _ hs)) others)
      obtain ⟨⟨s, i⟩, hs, rfl⟩ := List.mem_map.mp hy
      obtain ⟨above, -, hget⟩ := List.mem_zipIdx hs
      exact ⟨first s (hget ▸ List.getElem_mem _), above⟩
  refine numbered.imp_of_mem fun {x y} hx hy h => ?_
  obtain ⟨⟨r, i⟩, hr, rfl⟩ := List.mem_map.mp hx
  obtain ⟨⟨s, j⟩, hs, rfl⟩ := List.mem_map.mp hy
  have collectors : r.collector = s.collector :=
    (same r (List.fst_mem_of_mem_zipIdx hr)).trans (same s (List.fst_mem_of_mem_zipIdx hs)).symm
  rw [key_le_iff]
  rcases lt_or_eq_of_le h.1 with earlier | equal
  · exact .inl earlier
  · exact .inr ⟨equal, .inr ⟨collectors, .inr ⟨rfl, h.2.le⟩⟩⟩

end Delivery

namespace Lane

/-- What a lane has still to deliver under fixed criteria. -/
def deliveries (c : Criteria) (l : Lane) : List Delivery :=
  Delivery.ofRecords l.number l.delivered (l.upcoming c)

/-- The next delivery of a lane. -/
def nextDelivery (c : Criteria) (l : Lane) : Delivery := ⟨l.emitted c, l.number, l.delivered⟩

theorem number_of_successor? {c : Criteria} {l l' : Lane} (h : l.successor? c = some l') :
    l'.number = l.number := by
  rw [(Contents.pull_of_lane? h).2.1]

theorem deliveries_eq (c : Criteria) (l : Lane) :
    l.deliveries c = l.nextDelivery c :: (l.successor? c).elim [] (deliveries c) := by
  rw [deliveries, upcoming_eq, Delivery.ofRecords_cons]
  cases h : l.successor? c with
  | none => rfl
  | some l' =>
    rw [Option.elim, Option.elim, deliveries, (Contents.pull_of_lane? h).2.1]
    rfl

end Lane

namespace Merge

/-- Different lanes have different numbers, and the next number is not in use. -/
structure Numbered (m : Merge) : Prop where
  /-- Different lanes have different numbers. -/
  distinct : (m.lanes.map Lane.number).Nodup
  /-- The number of the next lane is greater. -/
  fresh : ∀ l ∈ m.lanes, l.number < m.nextNumber

theorem Numbered.of_lanes_eq_nil {m : Merge} (lanes : m.lanes = []) : m.Numbered :=
  ⟨by simp [lanes], by simp [lanes]⟩

theorem number_of_opened? {c : Criteria} {m : Merge} {chunk : Chunk} {l : Lane}
    (h : m.opened? c chunk = some l) : l.number = m.nextNumber := by
  unfold opened? at h
  cases ho : m.opener chunk with
  | error e => simp [ho] at h
  | ok x =>
    rw [ho] at h
    rw [(Contents.pull_of_lane? h).2.1]

theorem Numbered.addChunk {c : Criteria} {m : Merge} (chunk : Chunk) (h : m.Numbered) :
    (m.addChunk c chunk).Numbered := by
  rw [addChunk_eq]
  cases ho : m.opened? c chunk with
  | none => exact ⟨by simpa using h.distinct, by simpa using h.fresh⟩
  | some l =>
    have number := number_of_opened? ho
    constructor
    · have unused : ∀ l' ∈ m.lanes, l'.number ≠ m.nextNumber := fun l' hl' => (h.fresh l' hl').ne
      simpa [List.nodup_append, number, h.distinct] using unused
    · intro l' hl'
      rcases List.mem_append.mp hl' with old | new
      · exact Nat.lt_succ_of_lt (h.fresh l' old)
      · obtain rfl : l' = l := by simpa using new
        simp [number]

theorem numbered_add {c : Criteria} {m : Merge} (chunks : List Chunk) (h : m.Numbered) :
    (m.add c chunks).Numbered := by
  unfold add
  induction chunks generalizing m with
  | nil => exact h
  | cons chunk chunks ih => exact ih (h.addChunk chunk)

theorem Numbered.afterLane {c : Criteria} {m : Merge} {l : Lane} {others : List Lane}
    (h : m.Numbered) (lanes : m.lanes.Perm (l :: others)) : (m.afterLane c l others).Numbered := by
  -- the successor of the lane takes over its number
  have distinct := (lanes.map Lane.number).nodup h.distinct
  have fresh : ∀ l' ∈ l :: others, l'.number < m.nextNumber :=
    fun l' hl' => h.fresh l' (lanes.symm.subset hl')
  rw [List.map_cons, List.nodup_cons] at distinct
  rw [List.forall_mem_cons] at fresh
  cases hs : l.successor? c with
  | none =>
    exact ⟨by simpa [Merge.afterLane, hs] using distinct.2,
      by simpa [Merge.afterLane, hs] using fresh.2⟩
  | some l' =>
    have number := Lane.number_of_successor? hs
    constructor
    · have moved : (l'.number :: others.map Lane.number).Nodup := by
        rw [number]
        exact List.nodup_cons.mpr distinct
      simpa [Merge.afterLane, hs] using (List.perm_append_singleton _ _).symm.nodup moved
    · intro o ho
      rcases List.mem_append.mp ho with old | new
      · exact fresh.2 o old
      · obtain rfl : o = l' := by simpa [hs] using new
        exact number.trans_lt fresh.1

/-- What is left after a lane has delivered its head, as deliveries. -/
theorem deliveries_afterLane (c : Criteria) {m : Merge} {l : Lane} {others : List Lane}
    (lanes : m.lanes.Perm (l :: others)) :
    (m.lanes.flatMap (Lane.deliveries c)).Perm
      (l.nextDelivery c :: (m.afterLane c l others).lanes.flatMap (Lane.deliveries c)) := by
  refine (lanes.flatMap_right _).trans ?_
  rw [List.flatMap_cons, l.deliveries_eq c, List.cons_append]
  refine .cons _ ?_
  cases hs : l.successor? c with
  | none => simp [afterLane, hs]
  | some l' => simpa [afterLane, hs] using List.perm_append_comm

/-- The next delivery of the lane that is picked stands before all that is left. -/
theorem nextDelivery_before {c : Criteria} {S : Delivery → Delivery → Prop}
    (agrees : Delivery.Agrees S) {m : Merge} {l : Lane} {others : List Lane} (numbered : m.Numbered)
    (sorted : ∀ l ∈ m.lanes, (l.deliveries c).Pairwise S)
    (lanes : m.lanes.Perm (l :: others)) (least : ∀ o ∈ others, l.key ≤ o.key) :
    ∀ y ∈ (m.afterLane c l others).lanes.flatMap (Lane.deliveries c), S (l.nextDelivery c) y := by
  intro y hy
  obtain ⟨o, ho, hy⟩ := List.mem_flatMap.mp hy
  rcases List.mem_append.mp ho with other | successor
  · -- the head of another lane comes later, and all of that lane after its head
    have onward := sorted o (lanes.symm.subset (.tail _ other))
    rw [o.deliveries_eq c] at hy onward
    have different : l.number ≠ o.number := by
      have distinct := (lanes.map Lane.number).nodup numbered.distinct
      rw [List.map_cons, List.nodup_cons] at distinct
      exact fun same => distinct.1 (same ▸ List.mem_map_of_mem other)
    have head : S (l.nextDelivery c) (o.nextDelivery c) :=
      agrees.of_laneKey_le different (least o other)
    rcases List.mem_cons.mp hy with rfl | hy
    · exact head
    · exact agrees.trans head (List.rel_of_pairwise_cons onward hy)
  · -- the rest of the lane itself is sorted behind its head
    have onward := sorted l (lanes.symm.subset List.mem_cons_self)
    rw [l.deliveries_eq c] at onward
    refine List.rel_of_pairwise_cons onward ?_
    rw [Option.mem_toList] at successor
    rwa [successor]

/-- Draining delivers what the lanes have to deliver, in every order that agrees with the order of
lanes and in which each lane is sorted. -/
theorem exists_deliveries {c : Criteria} {S : Delivery → Delivery → Prop}
    (agrees : Delivery.Agrees S) {m : Merge} (numbered : m.Numbered)
    (sorted : ∀ l ∈ m.lanes, (l.deliveries c).Pairwise S) :
    ∃ ds : List Delivery, ds.map Delivery.record = recordsOf (m.drain c) ∧
      ds.Perm (m.lanes.flatMap (Lane.deliveries c)) ∧ ds.Pairwise S := by
  -- both conditions are kept when a lane delivers its head, so they belong to the induction
  revert numbered sorted
  refine drain_induction (P := fun m rs => m.Numbered →
      (∀ l ∈ m.lanes, (l.deliveries c).Pairwise S) → ∃ ds : List Delivery,
        ds.map Delivery.record = recordsOf rs ∧
          ds.Perm (m.lanes.flatMap (Lane.deliveries c)) ∧ ds.Pairwise S) ?_ ?_ ?_ m
  · intro m lanes _ _ _
    exact ⟨[], rfl, by simp [lanes], .nil⟩
  · intro m e failures rs _ ih numbered sorted
    exact ih ⟨numbered.distinct, numbered.fresh⟩ sorted
  · intro m l others rs _ lanes least ih numbered sorted
    have sorted' : ∀ o ∈ (m.afterLane c l others).lanes, (o.deliveries c).Pairwise S := by
      intro o ho
      rcases List.mem_append.mp ho with other | successor
      · exact sorted o (lanes.symm.subset (.tail _ other))
      · have onward := sorted l (lanes.symm.subset List.mem_cons_self)
        rw [Option.mem_toList] at successor
        rw [l.deliveries_eq c, successor] at onward
        exact onward.of_cons
    obtain ⟨ds, records, perm, ordered⟩ := ih (numbered.afterLane lanes) sorted'
    have first := nextDelivery_before agrees numbered sorted lanes least
    refine ⟨l.nextDelivery c :: ds, ?_, ?_, ?_⟩
    · rw [List.map_cons, records]
      rfl
    · exact (perm.cons _).trans (deliveries_afterLane c lanes).symm
    · exact .cons (fun y hy => first y (perm.subset hy)) ordered

end Merge

end RouteFeed
