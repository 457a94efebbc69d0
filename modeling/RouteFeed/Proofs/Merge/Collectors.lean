import RouteFeed.Proofs.Merge.Numbering

/-!
# Dumps of different collectors

The number of a lane decides only between lanes of one collector. If all lanes are of different
collectors, time and collector already tell which of them comes first. So it does not matter in
which order the chunks were opened: the records come in the same order, in the same positions. The
failures are the same ones, but may come in another order, since those that are found while chunks
are opened wait in the order of the chunks.

## Main definitions

* `Lane.standing` — what decides between lanes of different collectors
* `Opener.lane?` — the lane of a chunk, its number apart
* `Merge.Mixes` — two merges hold the same lanes under whatever numbers

## Main results

* `Merge.Mixes.recordsOf_drain` — such merges deliver the same records
* `Merge.records_eq_of_perm` — the order of opening does not matter
-/

namespace RouteFeed

namespace Lane

variable {l l' : Lane}

/-- A lane whose number has been forgotten. -/
def unnumbered (l : Lane) : Lane := l.renumber fun _ => 0

/-- What decides between lanes of different collectors: time and collector. -/
def standing (l : Lane) : ℤ ×ₗ String := toLex (l.head.time.orderKey, l.chunk.collector)

theorem standing_le_of_key_le (h : l.key ≤ l'.key) : l.standing ≤ l'.standing := by
  simp only [key, Prod.Lex.toLex_le_toLex] at h
  rw [standing, standing, Prod.Lex.toLex_le_toLex]
  rcases h with time | ⟨time, collector | ⟨collector, -⟩⟩
  · exact .inl time
  · exact .inr ⟨time, collector.le⟩
  · exact .inr ⟨time, collector.le⟩

theorem collector_eq_of_standing_eq (h : l.standing = l'.standing) :
    l.chunk.collector = l'.chunk.collector := by
  simp only [standing, toLex_inj, Prod.mk.injEq] at h
  exact h.2

theorem standing_eq_of_unnumbered_eq (h : l.unnumbered = l'.unnumbered) :
    l.standing = l'.standing := show l.unnumbered.standing = l'.unnumbered.standing by rw [h]

theorem emitted_eq_of_unnumbered_eq (c : Criteria) (h : l.unnumbered = l'.unnumbered) :
    l.emitted c = l'.emitted c := by
  rw [← emitted_renumber c (fun _ => 0) l, ← emitted_renumber c (fun _ => 0) l']
  exact congrArg (emitted c) h

theorem successor?_eq_of_unnumbered_eq (c : Criteria) (h : l.unnumbered = l'.unnumbered) :
    (l.successor? c).map unnumbered = (l'.successor? c).map unnumbered := by
  have forgotten (l : Lane) : (l.successor? c).map unnumbered = l.unnumbered.successor? c :=
    (successor?_renumber c (fun _ => 0) l).symm
  rw [forgotten, forgotten, h]

end Lane

/-- The lane that opening a chunk leads to, its number apart. -/
def Opener.lane? (opener : Opener) (c : Criteria) (chunk : Chunk) : Option Lane :=
  match opener chunk with
  | .error _ => none
  | .ok x => x.lane? c chunk 0 0

theorem Opener.chunk_of_lane? {opener : Opener} {c : Criteria} {chunk : Chunk} {l : Lane}
    (h : opener.lane? c chunk = some l) : l.chunk = chunk := by
  unfold lane? at h
  cases opens : opener chunk with
  | error e => simp [opens] at h
  | ok x =>
    rw [opens] at h
    rw [(Contents.pull_of_lane? h).2.1]

namespace Merge

variable {c : Criteria} {m m' : Merge} {l l' : Lane} {others others' : List Lane}

/-! ## Failures -/

/-- The failures that wait make no difference to the records. -/
theorem recordsOf_drain_failures (c : Criteria) (m : Merge) :
    recordsOf (m.drain c) = recordsOf ({ m with failures := [] }.drain c) := by
  obtain ⟨opener, lanes, failures, number⟩ := m
  induction failures with
  | nil => rfl
  | cons e failures ih =>
    have first : next c ⟨opener, lanes, e :: failures, number⟩ =
        (.error e, ⟨opener, lanes, failures, number⟩) := rfl
    rw [drain_of_next (r := .error e) first, recordsOf_error, ih]

/-! ## Merges with the same lanes -/

/-- Two merges hold the same lanes under whatever numbers, and no two lanes are of one collector. -/
structure Mixes (m m' : Merge) : Prop where
  /-- The lanes are the same, in whatever order. -/
  lanes : (m.lanes.map Lane.unnumbered).Perm (m'.lanes.map Lane.unnumbered)
  /-- The collectors are different. -/
  distinct : (m.lanes.map fun l => l.chunk.collector).Nodup

namespace Mixes

theorem symm (mixes : m.Mixes m') : m'.Mixes m where
  lanes := mixes.lanes.symm
  distinct := by
    have collectors := mixes.lanes.map fun l => l.chunk.collector
    rw [List.map_map, List.map_map] at collectors
    exact collectors.nodup mixes.distinct

/-- To each lane of one merge there is one of the other, which may not come before the first. -/
theorem exists_lane (mixes : m.Mixes m') (lanes : m.lanes.Perm (l :: others))
    (lanes' : m'.lanes.Perm (l' :: others')) (least' : ∀ o ∈ others', l'.key ≤ o.key) :
    ∃ o ∈ m'.lanes, o.unnumbered = l.unnumbered ∧ l'.standing ≤ o.standing := by
  have hl : l.unnumbered ∈ m.lanes.map Lane.unnumbered :=
    List.mem_map_of_mem (lanes.symm.subset List.mem_cons_self)
  obtain ⟨o, ho, same⟩ := List.mem_map.mp (mixes.lanes.subset hl)
  refine ⟨o, ho, same, ?_⟩
  rcases List.mem_cons.mp (lanes'.subset ho) with rfl | other
  · exact le_rfl
  · exact Lane.standing_le_of_key_le (least' o other)

/-- The lanes that come first are the same, but for their numbers. -/
theorem first_eq (mixes : m.Mixes m') (lanes : m.lanes.Perm (l :: others))
    (least : ∀ o ∈ others, l.key ≤ o.key) (lanes' : m'.lanes.Perm (l' :: others'))
    (least' : ∀ o ∈ others', l'.key ≤ o.key) : l.unnumbered = l'.unnumbered := by
  obtain ⟨o', ho', same', first'⟩ := mixes.exists_lane lanes lanes' least'
  obtain ⟨o, ho, same, first⟩ := mixes.symm.exists_lane lanes' lanes least
  -- neither of the two may come before the other, so they are of one collector
  rw [Lane.standing_eq_of_unnumbered_eq same'] at first'
  rw [Lane.standing_eq_of_unnumbered_eq same] at first
  have collectors := Lane.collector_eq_of_standing_eq (le_antisymm first first')
  have hl : l ∈ m.lanes := lanes.symm.subset List.mem_cons_self
  have ofOne : o.chunk.collector = l.chunk.collector :=
    (Lane.collector_eq_of_standing_eq (Lane.standing_eq_of_unnumbered_eq same)).trans
      collectors.symm
  rw [← same, List.inj_on_of_nodup_map mixes.distinct ho hl ofOne]

/-- When the lanes that come first have delivered their heads, the lanes are still the same. -/
theorem afterLane (mixes : m.Mixes m') (lanes : m.lanes.Perm (l :: others))
    (lanes' : m'.lanes.Perm (l' :: others')) (same : l.unnumbered = l'.unnumbered) :
    (m.afterLane c l others).Mixes (m'.afterLane c l' others') where
  lanes := by
    have left := ((lanes.map Lane.unnumbered).symm.trans mixes.lanes).trans
      (lanes'.map Lane.unnumbered)
    rw [List.map_cons, List.map_cons, same] at left
    have behind := Lane.successor?_eq_of_unnumbered_eq c same
    have behind := congrArg Option.toList behind
    rw [Option.toList_map, Option.toList_map] at behind
    simp only [Merge.afterLane, List.map_append, behind]
    exact left.cons_inv.append_right _
  distinct := by
    have distinct := (lanes.map fun l => l.chunk.collector).nodup mixes.distinct
    rw [Merge.afterLane, List.map_append]
    -- the lane that follows is of the same collector as the one that has delivered
    have follows : ((l.successor? c).toList.map fun l => l.chunk.collector).Sublist
        [l.chunk.collector] := by
      cases hs : l.successor? c with
      | none => exact List.nil_sublist _
      | some l₁ => simp [Lane.chunk_of_successor? hs]
    exact ((List.perm_append_singleton _ _).symm.nodup distinct).sublist (follows.append_left _)

/-- Merges with the same lanes deliver the same records, whatever failures wait. -/
theorem recordsOf_drain (mixes : m.Mixes m') (c : Criteria) :
    recordsOf (m.drain c) = recordsOf (m'.drain c) := by
  revert m'
  refine drain_induction (P := fun m rs => ∀ {m'}, m.Mixes m' →
    recordsOf rs = recordsOf (m'.drain c)) ?_ ?_ ?_ m
  · intro m noLanes _ m' mixes
    have nothing := mixes.lanes
    rw [noLanes, List.map_nil, List.nil_perm, List.map_eq_nil_iff] at nothing
    have empty : isEmpty { m' with failures := [] } := isEmpty_iff.mpr ⟨nothing, rfl⟩
    rw [recordsOf_drain_failures c m', drain_of_isEmpty empty]
  · intro m e failures rs _ ih m' mixes
    exact ih ⟨mixes.lanes, mixes.distinct⟩
  · intro m l others rs _ lanes least ih m' mixes
    have mixes : m.Mixes { m' with failures := [] } := ⟨mixes.lanes, mixes.distinct⟩
    have quiet : ({ m' with failures := [] } : Merge).failures = [] := rfl
    rw [recordsOf_drain_failures c m']
    generalize ({ m' with failures := [] } : Merge) = m₁ at mixes quiet
    have advances := m₁.advances_next c
    generalize next : m₁.next c = result at advances
    cases advances with
    | ended noLanes =>
      have some_lane := (lanes.map Lane.unnumbered).symm.trans mixes.lanes
      simp [noLanes] at some_lane
    | failure waiting => simp [quiet] at waiting
    | @record l₁ others₁ _ lanes₁ least₁ =>
      have same := mixes.first_eq lanes least lanes₁ least₁
      rw [drain_of_next (r := .ok (l₁.emitted c)) next, recordsOf_ok, recordsOf_ok,
        Lane.emitted_eq_of_unnumbered_eq c same, ih (mixes.afterLane lanes lanes₁ same)]

end Mixes

/-! ## Opening chunks -/

theorem map_unnumbered_opened? (c : Criteria) (m : Merge) (chunk : Chunk) :
    (m.opened? c chunk).map Lane.unnumbered = m.opener.lane? c chunk := by
  unfold opened? Opener.lane?
  cases m.opener chunk with
  | error e => rfl
  | ok x => exact x.map_renumber_lane? c chunk m.nextNumber 0 fun _ => 0

/-- Opening chunks adds their lanes. -/
theorem map_unnumbered_add (c : Criteria) (chunks : List Chunk) (m : Merge) :
    (m.add c chunks).lanes.map Lane.unnumbered =
      m.lanes.map Lane.unnumbered ++ chunks.filterMap (m.opener.lane? c) := by
  unfold add
  induction chunks generalizing m with
  | nil => simp
  | cons chunk chunks ih =>
    rw [List.foldl_cons, ih, opener_addChunk, addChunk_eq, List.map_append, ← Option.toList_map,
      map_unnumbered_opened?, List.append_assoc]
    cases h : m.opener.lane? c chunk <;> simp [h]

/-- The lanes of chunks of different collectors are of different collectors. -/
theorem nodup_collectors {opener : Opener} {chunks : List Chunk} (c : Criteria)
    (distinct : (chunks.map Chunk.collector).Nodup) :
    ((chunks.filterMap (opener.lane? c)).map fun l => l.chunk.collector).Nodup := by
  rw [List.nodup_iff_pairwise_ne, List.pairwise_map] at distinct ⊢
  refine distinct.filterMap _ fun chunk chunk' differ l hl l' hl' => ?_
  rwa [Opener.chunk_of_lane? hl, Opener.chunk_of_lane? hl']

/-- Opening chunks of different collectors in one order or another, when nothing is open, leads to
the same lanes. -/
theorem mixes_add {chunks chunks' : List Chunk} (empty : m.isEmpty) (empty' : m'.isEmpty)
    (opener : m'.opener = m.opener) (perm : chunks.Perm chunks')
    (distinct : (chunks.map Chunk.collector).Nodup) (c : Criteria) :
    (m.add c chunks).Mixes (m'.add c chunks') where
  lanes := by
    rw [map_unnumbered_add, map_unnumbered_add, (isEmpty_iff.mp empty).1,
      (isEmpty_iff.mp empty').1, opener]
    exact perm.filterMap _
  distinct := by
    have same : ((m.add c chunks).lanes.map fun l => l.chunk.collector) =
        ((m.add c chunks).lanes.map Lane.unnumbered).map fun l => l.chunk.collector := by
      rw [List.map_map]
      rfl
    rw [same, map_unnumbered_add, (isEmpty_iff.mp empty).1]
    exact nodup_collectors c distinct

/-- What is delivered of chunks that are opened when nothing is open is what each of them brings. -/
theorem drain_add_perm {chunks : List Chunk} (empty : m.isEmpty) (c : Criteria) :
    ((m.add c chunks).drain c).Perm (chunks.flatMap (m.opener.output c)) := by
  have interleaves := (m.add c chunks).drain_interleaves c
  rw [← List.append_nil (Merge.outputs _ _)] at interleaves
  have brought := (interleaves_of_add empty interleaves).perm_flatten
  rwa [List.append_nil, ← List.flatMap_def] at brought

/-- **The order of opening.** Two merges in which nothing is open open the same chunks, each in an
order of its own. If the chunks are of different collectors, both deliver the same records in the
same order and in the same positions, whatever the dumps hold: their times may be in any order, be
equal, zeros of either sign or not numbers at all. What is delivered besides are the same failures,
though perhaps in another order. -/
theorem records_eq_of_perm {chunks chunks' : List Chunk} (c : Criteria) (empty : m.isEmpty)
    (empty' : m'.isEmpty) (opener : m'.opener = m.opener) (perm : chunks.Perm chunks')
    (distinct : (chunks.map Chunk.collector).Nodup) :
    recordsOf ((m.add c chunks).drain c) = recordsOf ((m'.add c chunks').drain c) ∧
      ((m.add c chunks).drain c).Perm ((m'.add c chunks').drain c) := by
  refine ⟨(mixes_add empty empty' opener perm distinct c).recordsOf_drain c, ?_⟩
  have brought : ((m'.add c chunks').drain c).Perm (chunks'.flatMap (m.opener.output c)) := by
    rw [← opener]
    exact m'.drain_add_perm empty' c
  exact ((m.drain_add_perm empty c).trans (perm.flatMap_right _)).trans brought.symm

/-- What a merge delivers, if it has nothing more after fewer than so many questions. -/
def drainWithin? (c : Criteria) : ℕ → Merge → Option (List (Except FeedError Record))
  | 0, _ => none
  | n + 1, m =>
    match m.next c with
    | (.ok none, _) => some []
    | (.ok (some r), m') => (drainWithin? c n m').map (.ok r :: ·)
    | (.error e, m') => (drainWithin? c n m').map (.error e :: ·)

/-- Draining gives what is delivered in so many questions, if there is nothing more after them. -/
theorem drain_of_drainWithin? {β : Type*} {n : ℕ} {b : β} (f : List (Except FeedError Record) → β)
    (h : (m.drainWithin? c n).map f = some b) : f (m.drain c) = b := by
  fun_induction drainWithin? c n m generalizing f with
  | case1 => cases h
  | case2 n m m' next =>
    rw [drain_of_isEmpty (next_eq_none_iff.mp (congrArg Prod.fst next))]
    exact Option.some.inj h
  | case3 n m r m' next ih =>
    rw [Option.map_map] at h
    rw [drain_of_next (r := .ok r) next]
    exact ih _ h
  | case4 n m e m' next ih =>
    rw [Option.map_map] at h
    rw [drain_of_next (r := .error e) next]
    exact ih _ h

/-- Dumps whose times are in no order: values that are not numbers stand before zeros, and a
positive zero before a negative one. The decoding of three of them fails. -/
def jumbledOpener : Opener := fun chunk =>
  match chunk.locator with
  | "up" => .ok ⟨[⟨⟨0⟩, []⟩, ⟨⟨0x7FF8000000000000⟩, []⟩, ⟨⟨0x8000000000000000⟩, []⟩], none⟩
  | "down" => .ok ⟨[⟨⟨0x7FF8000000000000⟩, []⟩, ⟨⟨0⟩, []⟩], some (.corrupted "down" "cut off")⟩
  | "even" => .ok ⟨[⟨⟨0⟩, []⟩, ⟨⟨0⟩, []⟩], none⟩
  | "bad" => .ok ⟨[], some (.corrupted "bad" "no header")⟩
  | "worse" => .ok ⟨[], some (.corrupted "worse" "no header")⟩
  | locator => .error (.unopenable locator "no such file")

/-- Chunks for these dumps, each of another collector. -/
def jumbledChunks : List Chunk :=
  [⟨"ris", "rrc02", .update, "up", 0, 300⟩, ⟨"ris", "rrc03", .update, "bad", 0, 300⟩,
   ⟨"ris", "rrc00", .update, "down", 0, 300⟩, ⟨"ris", "rrc04", .update, "worse", 0, 300⟩,
   ⟨"ris", "rrc01", .update, "even", 0, 300⟩, ⟨"ris", "rrc05", .update, "lost", 0, 300⟩]

/-- A merge that has opened some of them, after so many others that are closed again. -/
def jumbledMerge (number : ℕ) (chunks : List Chunk) : Merge :=
  ({ opener := jumbledOpener, nextNumber := number } : Merge).add {} chunks

/-- The chunks are opened from the first to the last, and in a merge that has been used before from
the last to the first. The records come in the same order, in which a positive zero stands before a
negative one of the same dump. -/
theorem records_eq_of_perm_jumbled :
    (jumbledChunks.map Chunk.collector).Nodup ∧
    recordsOf ((jumbledMerge 0 jumbledChunks).drain {}) =
      recordsOf ((jumbledMerge 7 jumbledChunks.reverse).drain {}) ∧
    (recordsOf ((jumbledMerge 0 jumbledChunks).drain {})).map
        (fun r => (r.locator, r.time.bits, r.position)) =
      [("even", 0, .first), ("even", 0, .last), ("up", 0, .first),
        ("down", 0x7FF8000000000000, .first), ("down", 0, .last),
        ("up", 0x7FF8000000000000, .middle), ("up", 0x8000000000000000, .last)] := by
  have distinct : (jumbledChunks.map Chunk.collector).Nodup := by decide
  have unused : ({ opener := jumbledOpener } : Merge).isEmpty := rfl
  have used : ({ opener := jumbledOpener, nextNumber := 7 } : Merge).isEmpty := rfl
  obtain ⟨records, -⟩ :=
    records_eq_of_perm {} unused used rfl jumbledChunks.reverse_perm.symm distinct
  refine ⟨distinct, records, ?_⟩
  refine drain_of_drainWithin? (n := 12)
    (fun rs => (recordsOf rs).map fun r => (r.locator, r.time.bits, r.position)) ?_
  decide +kernel

end Merge

end RouteFeed
