import RouteFeed.Proofs.Merge.Course
import RouteFeed.Proofs.Merge.Deliveries
import RouteFeed.Proofs.Timestamp.Order

/-!
# The rank of lanes

Which lane a merge takes next must never be left to chance, whatever the times of the records are.
Comparing lanes is a total order but for lanes that it cannot tell apart, on all lanes that there
may be, also on those whose times are not numbers. Lanes that are open in one merge have different
numbers, and so it always tells them apart. A lane whose time is the less one in value comes first.
Coming first is kept up until the lane is taken: however the merge is used, the other lane is not
taken before.

## Main definitions

* `Lane.StrictlyOrdered` — comparing puts some lanes in a strict total order
* `Merge.Use`, `Merge.after`, `Merge.taken` — what may be done with a merge, and the lanes that are
  taken meanwhile
* `Merge.IsReachable` — merges that come about by use
* `Merge.TakesFirst` — a lane is taken before another

## Main results

* `Merge.Numbered.strictlyOrdered` — lanes of different numbers
* `Merge.Use.effect` — what a use does to the open lanes
* `Merge.takesFirst_of_lt` — the lane that comes first is taken first
* `Merge.ranks_lanes_strictly` — what follows for all merges that come about by use
-/

namespace RouteFeed

/-! ## Comparing lanes -/

namespace Lane

variable {a b : Lane} {ls : List Lane}

instance : Std.TransCmp order := inferInstanceAs <| Std.TransCmp <|
  compareLex (compareOn fun l : Lane => l.head.time.orderKey)
    (compareLex (compareOn fun l : Lane => l.chunk.collector) (compareOn number))

theorem order_self (a : Lane) : a.order a = .eq := Std.ReflCmp.compare_self

theorem order_swap (a b : Lane) : (a.order b).swap = b.order a := Std.OrientedCmp.eq_swap.symm

/-- Of two lanes one comes first, or the order does not tell them apart. -/
theorem order_isLE_total (a b : Lane) : (a.order b).isLE ∨ (b.order a).isLE := by
  rw [← order_swap a b]
  cases a.order b <;> decide

theorem number_eq_of_order_eq (same : a.order b = .eq) : a.number = b.number := by
  simp only [order, Ordering.then_eq_eq, compare_eq_iff_eq] at same
  exact same.2.2

/-- The rank in a queue is the reverse of the order. -/
theorem compare_eq_swap (a b : Lane) : compare a b = (a.order b).swap := (order_swap a b).symm

/-- Lanes are equal to a queue if they have the same rank. -/
theorem beq_iff_compare_eq : a == b ↔ compare a b = .eq := by
  rw [compare_eq_swap, Ordering.swap_eq_eq]
  show (a.order b == .eq) = true ↔ _
  exact beq_iff_eq

theorem order_isLE_iff : (a.order b).isLE ↔ a.key ≤ b.key := by
  rw [← not_lt, ← order_eq_lt_iff, ← order_swap a b]
  cases a.order b <;> decide

/-- A lane whose time is less in value comes first. -/
theorem order_eq_lt_of_units_lt (less : a.head.time.units < b.head.time.units) :
    a.order b = .lt := by
  have key : a.head.time.orderKey < b.head.time.orderKey :=
    lt_of_not_ge fun le => not_le_of_gt less (Timestamp.units_le_of_orderKey_le le)
  exact order_eq_lt_iff.mpr (Prod.Lex.toLex_lt_toLex.mpr (.inl key))

/-- Comparing puts some lanes in a strict total order. -/
structure StrictlyOrdered (ls : List Lane) : Prop where
  /-- No lane comes before itself. -/
  refl : ∀ a ∈ ls, a.order a = .eq
  /-- Of two lanes only one comes first. -/
  antisymm : ∀ a ∈ ls, ∀ b ∈ ls, (a.order b).isLE → (b.order a).isLE → a = b
  /-- What comes before a lane comes before all that the lane comes before. -/
  trans : ∀ a ∈ ls, ∀ b ∈ ls, ∀ c ∈ ls, (a.order b).isLE → (b.order c).isLE → (a.order c).isLE
  /-- Of two lanes one comes first. -/
  total : ∀ a ∈ ls, ∀ b ∈ ls, (a.order b).isLE ∨ (b.order a).isLE
  /-- Lanes at different places are told apart. -/
  distinct : ls.Pairwise fun a b => a.order b ≠ .eq

/-- A lane that does not come after another one comes before it. -/
theorem StrictlyOrdered.eq_lt (ordered : StrictlyOrdered ls) (ha : a ∈ ls) (hb : b ∈ ls)
    (le : (a.order b).isLE) (different : a ≠ b) : a.order b = .lt := by
  rcases Ordering.isLE_iff_eq_lt_or_eq_eq.mp le with lt | eq
  · exact lt
  · have ge : (b.order a).isLE := by
      rw [← order_swap, eq]
      rfl
    exact absurd (ordered.antisymm a ha b hb le ge) different

end Lane

/-- Lanes of different numbers are in a strict total order. -/
theorem Merge.Numbered.strictlyOrdered {m : Merge} (numbered : m.Numbered) :
    Lane.StrictlyOrdered m.lanes where
  refl a _ := a.order_self
  antisymm a ha b hb le ge := by
    -- the order compares the numbers last, so lanes that it cannot tell apart share theirs
    have same : a.order b = .eq := Std.OrientedCmp.isLE_antisymm le ge
    exact List.inj_on_of_nodup_map numbered.distinct ha hb (Lane.number_eq_of_order_eq same)
  trans _ _ _ _ _ _ := Std.TransCmp.isLE_trans
  total a _ b _ := a.order_isLE_total b
  distinct := (List.pairwise_map.mp numbered.distinct).imp (mt Lane.number_eq_of_order_eq)

namespace Merge

variable {m m' : Merge} {c : Criteria} {a b l : Lane} {picked? : Option Lane} {k : ℕ}

/-! ## Using a merge -/

/-- What may be done with a merge. -/
inductive Use where
  /-- A call. -/
  | call (call : Call)
  /-- From now on, opening a chunk leads to something else. -/
  | exchange (opener : Opener)

namespace Use

/-- The merge after a use. -/
def apply : Use → Merge → Merge
  | call c, m => (c.apply m).2
  | exchange opener, m => { m with opener := opener }

/-- The lane that a use takes, to deliver its head. -/
def taken? : Use → Merge → Option Lane
  | call (.next _), m => if m.failures.isEmpty then (leastLane? m.lanes).map Prod.fst else none
  | _, _ => none

end Use

/-- The merge after some uses. -/
def after (m : Merge) (uses : List Use) : Merge := uses.foldl (fun m use => use.apply m) m

/-- The lanes that some uses take, one after another. -/
def taken : Merge → List Use → List Lane
  | _, [] => []
  | m, use :: uses => (use.taken? m).toList ++ taken (use.apply m) uses

/-- The merge comes about by use of one that has just been made. -/
def IsReachable (m : Merge) : Prop :=
  ∃ (opener : Opener) (uses : List Use), ({ opener := opener } : Merge).after uses = m

/-- However the merge is used, the second lane is not taken before the first. -/
def TakesFirst (m : Merge) (a b : Lane) : Prop :=
  ∀ uses front back, m.taken uses = front ++ b :: back → a ∈ front

/-- A record that is delivered is the head of the lane that is taken. -/
theorem next_eq_record_iff {r : Record} : (m.next c).1 = .ok (some r) ↔
    ∃ l, (Use.call (.next c)).taken? m = some l ∧ l.emitted c = r := by
  unfold next Use.taken?
  cases waiting : m.failures with
  | cons e failures => simp [waiting]
  | nil =>
    cases least : leastLane? m.lanes with
    | none => simp [waiting, least]
    | some found => simp [waiting, least, deliver_eq]

/-- What a use does to the open lanes. -/
inductive Effect (m : Merge) : Option Lane → Merge → Prop where
  /-- No lane is taken or closed; others may be opened, under numbers that were not in use. -/
  | keeps {m' : Merge} {new : List Lane} (lanes : m'.lanes = m.lanes ++ new)
      (fresh : ∀ l ∈ new, m.nextNumber ≤ l.number) (onward : m.nextNumber ≤ m'.nextNumber) :
      Effect m none m'
  /-- All lanes are closed. -/
  | closes : Effect m none m.clear
  /-- A lane with the least key is taken, and its successor takes its place. -/
  | takes {l : Lane} {others : List Lane} (c : Criteria) (lanes : m.lanes.Perm (l :: others))
      (least : ∀ o ∈ others, l.key ≤ o.key) : Effect m (some l) (m.afterLane c l others)

theorem exists_lanes_add (c : Criteria) (chunks : List Chunk) (m : Merge) :
    ∃ new, (m.add c chunks).lanes = m.lanes ++ new ∧ (∀ l ∈ new, m.nextNumber ≤ l.number) ∧
      m.nextNumber ≤ (m.add c chunks).nextNumber := by
  unfold add
  induction chunks generalizing m with
  | nil => exact ⟨[], (List.append_nil _).symm, by simp, le_rfl⟩
  | cons chunk chunks ih =>
    obtain ⟨new, lanes, fresh, onward⟩ := ih (m.addChunk c chunk)
    rw [List.foldl_cons, lanes]
    rw [addChunk_eq] at fresh onward ⊢
    have step : m.nextNumber ≤ m.nextNumber + (m.opened? c chunk).toList.length :=
      Nat.le_add_right _ _
    refine ⟨(m.opened? c chunk).toList ++ new, List.append_assoc _ _ _, fun l hl => ?_,
      step.trans onward⟩
    rcases List.mem_append.mp hl with opened | later
    · exact (number_of_opened? (Option.mem_toList.mp opened)).ge
    · exact step.trans (fresh l later)

theorem Use.effect (use : Use) (m : Merge) : Effect m (use.taken? m) (use.apply m) := by
  cases use with
  | exchange opener => exact .keeps (List.append_nil _).symm (by simp) le_rfl
  | call call =>
    cases call with
    | clear => exact .closes
    | add c chunks =>
      obtain ⟨new, lanes, fresh, onward⟩ := exists_lanes_add c chunks m
      exact .keeps lanes fresh onward
    | next c =>
      rw [Use.apply, Call.apply, Use.taken?, next]
      cases waiting : m.failures with
      | cons e failures => exact .keeps (List.append_nil _).symm (by simp) le_rfl
      | nil =>
        cases least : leastLane? m.lanes with
        | none => exact .keeps (List.append_nil _).symm (by simp) le_rfl
        | some found =>
          obtain ⟨l, others⟩ := found
          obtain ⟨lanes, least⟩ := leastLane?_spec least
          simp only [deliver_eq]
          exact .takes c lanes least

/-! ## Numbers -/

theorem Numbered.next (numbered : m.Numbered) (c : Criteria) : (m.next c).2.Numbered := by
  have advances := m.advances_next c
  generalize m.next c = result at advances
  cases advances with
  | ended => exact numbered
  | failure => exact ⟨numbered.distinct, numbered.fresh⟩
  | record failures lanes => exact numbered.afterLane lanes

theorem Numbered.apply (numbered : m.Numbered) (use : Use) : (use.apply m).Numbered := by
  cases use with
  | exchange opener => exact ⟨numbered.distinct, numbered.fresh⟩
  | call call =>
    cases call with
    | add c chunks => exact numbered_add chunks numbered
    | next c => exact numbered.next c
    | clear => exact .of_lanes_eq_nil rfl

/-- Whatever is done with a merge, different lanes have different numbers. -/
theorem Numbered.after (numbered : m.Numbered) (uses : List Use) : (m.after uses).Numbered := by
  unfold Merge.after
  induction uses generalizing m with
  | nil => exact numbered
  | cons use uses ih => exact ih (numbered.apply use)

theorem IsReachable.numbered (reachable : m.IsReachable) : m.Numbered := by
  obtain ⟨opener, uses, rfl⟩ := reachable
  exact Numbered.after (.of_lanes_eq_nil rfl) uses

/-- A number that has been used up and that no lane has is not given out again. -/
theorem Effect.absent (effect : Effect m picked? m') (old : k < m.nextNumber)
    (absent : ∀ l ∈ m.lanes, l.number ≠ k) :
    (∀ l ∈ picked?, l.number ≠ k) ∧ k < m'.nextNumber ∧ ∀ l ∈ m'.lanes, l.number ≠ k := by
  cases effect with
  | keeps lanes fresh onward =>
    refine ⟨by simp, old.trans_le onward, fun l hl => ?_⟩
    rcases List.mem_append.mp (lanes ▸ hl) with before | new
    · exact absent l before
    · exact (old.trans_le (fresh l new)).ne'
  | closes => exact ⟨by simp, old, by simp [clear]⟩
  | @takes l others c lanes least =>
    have here : l.number ≠ k := absent l (lanes.mem_iff.mpr List.mem_cons_self)
    refine ⟨by simpa using here, old, fun o ho => ?_⟩
    rcases List.mem_append.mp ho with other | successor
    · exact absent o (lanes.mem_iff.mpr (List.mem_cons_of_mem _ other))
    · rwa [Lane.number_of_successor? (Option.mem_toList.mp successor)]

theorem number_ne_of_mem_taken {uses : List Use} (old : k < m.nextNumber)
    (absent : ∀ l ∈ m.lanes, l.number ≠ k) : ∀ l ∈ m.taken uses, l.number ≠ k := by
  induction uses generalizing m with
  | nil => simp [taken]
  | cons use uses ih =>
    obtain ⟨here, old, absent⟩ := (use.effect m).absent old absent
    intro l hl
    rcases List.mem_append.mp hl with now | later
    · exact here l (Option.mem_toList.mp now)
    · exact ih old absent l later

/-! ## First come, first taken -/

/-- Of two open lanes the one that comes first is taken first. -/
theorem takesFirst_of_lt (numbered : m.Numbered) (ha : a ∈ m.lanes) (hb : b ∈ m.lanes)
    (less : a.order b = .lt) : m.TakesFirst a b := by
  rw [Lane.order_eq_lt_iff] at less
  intro uses
  -- as long as the first lane has not been taken, both stay open, until all lanes are closed
  induction uses generalizing m with
  | nil =>
    intro front back split
    simp [taken] at split
  | cons use uses ih =>
    intro front back split
    have numbered' := numbered.apply use
    have effect := use.effect m
    rw [taken] at split
    generalize use.taken? m = picked?, use.apply m = m' at numbered' effect split
    cases effect with
    | keeps lanes =>
      have stays : ∀ l ∈ m.lanes, l ∈ m'.lanes := fun l hl => lanes ▸ List.mem_append_left _ hl
      exact ih numbered' (stays a ha) (stays b hb) front back split
    | closes =>
      -- the number of the second lane is used up, so the lane cannot come back
      have split : m.clear.taken uses = front ++ b :: back := split
      have gone : ∀ l ∈ m.clear.taken uses, l.number ≠ b.number :=
        number_ne_of_mem_taken (numbered.fresh b hb) (by simp [clear])
      have there : b ∈ front ++ b :: back := List.mem_append_right _ List.mem_cons_self
      exact absurd rfl (gone b (split ▸ there))
    | @takes l others c lanes least =>
      have first : l.key < b.key := by
        rcases List.mem_cons.mp (lanes.subset ha) with rfl | other
        · exact less
        · exact (least a other).trans_lt less
      have behind : b ∈ others := by
        rcases List.mem_cons.mp (lanes.subset hb) with rfl | other
        · exact absurd first (lt_irrefl _)
        · exact other
      -- the lane that is taken is not the second one; if it is not the first, both are still open
      cases front with
      | nil =>
        obtain ⟨rfl, -⟩ := List.cons_eq_cons.mp split
        exact absurd first (lt_irrefl _)
      | cons x front =>
        obtain ⟨rfl, rest⟩ := List.cons_eq_cons.mp split
        rcases List.mem_cons.mp (lanes.subset ha) with rfl | other
        · exact List.mem_cons_self
        · exact List.mem_cons_of_mem _ (ih numbered' (List.mem_append_left _ other)
            (List.mem_append_left _ behind) front back rest)

/-- The lane that is taken has the greatest rank of all open lanes. -/
theorem compare_eq_lt_of_taken (numbered : m.Numbered)
    (picked : (Use.call (.next c)).taken? m = some l) :
    l ∈ m.lanes ∧ ∀ o ∈ m.lanes, o ≠ l → compare o l = .lt := by
  have effect := (Use.call (.next c)).effect m
  rw [picked] at effect
  generalize Use.apply _ m = m' at effect
  cases effect with
  | @takes _ others _ lanes least =>
    have here : l ∈ m.lanes := lanes.mem_iff.mpr List.mem_cons_self
    refine ⟨here, fun o ho other => ?_⟩
    have behind : o ∈ others := (List.mem_cons.mp (lanes.subset ho)).resolve_left other
    exact numbered.strictlyOrdered.eq_lt here ho (Lane.order_isLE_iff.mpr (least o behind))
      other.symm

/-- **Ranking.** In every merge that comes about by use, comparing puts the open lanes in a strict
total order, whatever their times are. The rank in a queue is the reverse of this order, and equal
just for lanes that are equal to the queue. A record is delivered just if a lane is taken, and the
lane is the one of the greatest rank. Of two lanes whose times are numbers, the one whose time is
less in value is taken first, however the merge is used from there on. -/
theorem ranks_lanes_strictly (reachable : m.IsReachable) :
    Lane.StrictlyOrdered m.lanes ∧
    (∀ a b : Lane, compare a b = (a.order b).swap ∧ (a == b ↔ compare a b = .eq)) ∧
    (∀ c r, (m.next c).1 = .ok (some r) ↔
      ∃ l, (Use.call (.next c)).taken? m = some l ∧ l.emitted c = r) ∧
    (∀ c l, (Use.call (.next c)).taken? m = some l →
      l ∈ m.lanes ∧ ∀ o ∈ m.lanes, o ≠ l → compare o l = .lt) ∧
    ∀ a ∈ m.lanes, ∀ b ∈ m.lanes,
      a.head.time.isNaN = false → b.head.time.isNaN = false →
      a.head.time.units < b.head.time.units → m.TakesFirst a b := by
  have numbered := reachable.numbered
  refine ⟨numbered.strictlyOrdered, fun a b => ⟨a.compare_eq_swap b, Lane.beq_iff_compare_eq⟩,
    fun c r => next_eq_record_iff, fun c l => compare_eq_lt_of_taken numbered, ?_⟩
  intro a ha b hb _ _ less
  exact takesFirst_of_lt numbered ha hb (Lane.order_eq_lt_of_units_lt less)

/-- Dumps of one record, whose time has the bits of the time of the dump. -/
def singleOpener : Opener := fun chunk => .ok ⟨[⟨⟨chunk.fileTime.toUInt64⟩, []⟩], none⟩

/-- Dumps with the two infinities and with values of both signs that are not numbers are opened
beside others, one of which has gone on to its second record. -/
def rankedMerge : Merge :=
  ({ opener := Opener.sample } : Merge).after
    [.call (.add {} Chunk.samples), .call (.next {}), .exchange singleOpener,
      .call (.add {} ([0x7FF0000000000000, 0x7FF8000000000000, 0xFFF0000000000000,
        0xFFF8000000000000].map fun bits : UInt64 =>
          ⟨"ris", "rrc00", .update, "single", bits.toInt64, 300⟩))]

/-- Seven lanes are open, and the one with the negative infinity is taken before the one with the
positive zero. -/
theorem ranks_lanes_strictly_singles : rankedMerge.IsReachable ∧
    rankedMerge.lanes.map (fun l => (l.number, l.head.time.bits)) =
      [(0, 0x8000000000000000), (2, 0), (1, 0), (3, 0x7FF0000000000000), (4, 0x7FF8000000000000),
        (5, 0xFFF0000000000000), (6, 0xFFF8000000000000)] ∧
    (rankedMerge.taken (List.replicate 9 (.call (.next {})))).map Lane.number =
      [6, 5, 0, 1, 2, 3, 4, 0] ∧
    Lane.StrictlyOrdered rankedMerge.lanes ∧
    ∃ a ∈ rankedMerge.lanes, ∃ b ∈ rankedMerge.lanes, (a.number, b.number) = (5, 2) ∧
      (a.head.time.isNaN = false ∧ b.head.time.isNaN = false) ∧
      a.head.time.units < b.head.time.units ∧ rankedMerge.TakesFirst a b := by
  have reachable : rankedMerge.IsReachable := ⟨_, _, rfl⟩
  obtain ⟨ordered, -, -, -, first⟩ := ranks_lanes_strictly reachable
  refine ⟨reachable, by decide +kernel, by decide +kernel, ordered, ?_⟩
  obtain ⟨a, ha, b, hb, lanes, numbers, less⟩ : ∃ a ∈ rankedMerge.lanes,
      ∃ b ∈ rankedMerge.lanes, (a.number, b.number) = (5, 2) ∧
        (a.head.time.isNaN = false ∧ b.head.time.isNaN = false) ∧
        a.head.time.units < b.head.time.units := by
    decide +kernel
  exact ⟨a, ha, b, hb, lanes, numbers, less, first a ha b hb numbers.1 numbers.2 less⟩

end Merge

end RouteFeed
