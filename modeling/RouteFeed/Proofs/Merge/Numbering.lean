import RouteFeed.Proofs.Merge.Erasure

/-!
# The numbers of lanes

A merge numbers its lanes through, and goes on counting when all of them have been closed. Of two
lanes only the order of the numbers counts. So a merge whose numbers are all greater by the same
amount delivers the same, and chunks that are opened when nothing is open deliver what they would
deliver from a merge that has never been used.

## Main definitions

* `Merge.shift` — a merge whose numbers are all greater

## Main results

* `Merge.drain_shift` — the merge delivers the same
* `Merge.drain_add_of_isEmpty` — opening chunks when nothing is open
-/

namespace RouteFeed

namespace Lane

variable {number : ℕ → ℕ}

theorem isBefore_renumber (mono : StrictMono number) (a b : Lane) :
    (a.renumber number).isBefore (b.renumber number) = a.isBefore b := by
  rw [Bool.eq_iff_iff, isBefore_iff, isBefore_iff, ← not_le, ← not_le, key_renumber_le_iff mono]

end Lane

/-- The same lane is picked under numbers in the same order. -/
theorem leastLane?_map_renumber {number : ℕ → ℕ} (mono : StrictMono number) (ls : List Lane) :
    leastLane? (ls.map (Lane.renumber number)) =
      (leastLane? ls).map (Prod.map (Lane.renumber number) (List.map (Lane.renumber number))) := by
  induction ls with
  | nil => rfl
  | cons a rest ih =>
    rw [List.map_cons, leastLane?, leastLane?, ih]
    cases leastLane? rest with
    | none => rfl
    | some found =>
      obtain ⟨b, others⟩ := found
      simp only [Option.map_some, Prod.map_apply, Lane.isBefore_renumber mono]
      split_ifs <;> rfl

namespace Merge

variable {c : Criteria} {m : Merge} (k : ℕ)

/-- A merge whose numbers are all greater by the same amount. -/
def shift (m : Merge) : Merge :=
  { m with lanes := m.lanes.map (Lane.renumber (· + k)), nextNumber := m.nextNumber + k }

theorem opened?_shift (c : Criteria) (m : Merge) (chunk : Chunk) :
    (m.shift k).opened? c chunk = (m.opened? c chunk).map (Lane.renumber (· + k)) := by
  have opens : (m.shift k).opener chunk = m.opener chunk := rfl
  unfold opened?
  rw [opens]
  cases m.opener chunk with
  | error e => rfl
  | ok x => exact (x.map_renumber_lane? c chunk m.nextNumber 0 (· + k)).symm

theorem addChunk_shift (c : Criteria) (m : Merge) (chunk : Chunk) :
    (m.shift k).addChunk c chunk = (m.addChunk c chunk).shift k := by
  rw [addChunk_eq, addChunk_eq, opened?_shift]
  have failed : (m.shift k).openError? c chunk = m.openError? c chunk := rfl
  rw [failed]
  cases m.opened? c chunk <;> simp [shift, Nat.add_right_comm]

theorem add_shift (c : Criteria) (chunks : List Chunk) (m : Merge) :
    (m.shift k).add c chunks = (m.add c chunks).shift k := by
  unfold add
  induction chunks generalizing m with
  | nil => rfl
  | cons chunk chunks ih => rw [List.foldl_cons, List.foldl_cons, addChunk_shift, ih]

theorem afterLane_shift (c : Criteria) (m : Merge) (l : Lane) (others : List Lane) :
    (m.shift k).afterLane c (l.renumber (· + k)) (others.map (Lane.renumber (· + k))) =
      (m.afterLane c l others).shift k := by
  unfold afterLane shift
  rw [Lane.successor?_renumber]
  cases l.successor? c <;> simp [Lane.renumber]

theorem next_shift (c : Criteria) (m : Merge) :
    (m.shift k).next c = ((m.next c).1, (m.next c).2.shift k) := by
  have mono : StrictMono (· + k) := fun i j less => Nat.add_lt_add_right less k
  have waiting : (m.shift k).failures = m.failures := rfl
  unfold next
  rw [waiting]
  cases m.failures with
  | cons e failures => rfl
  | nil =>
    have least : leastLane? (m.shift k).lanes = _ := leastLane?_map_renumber mono m.lanes
    rw [least]
    cases leastLane? m.lanes with
    | none => rfl
    | some found =>
      obtain ⟨l, others⟩ := found
      simp only [Option.map_some, Prod.map_apply, deliver_eq, Lane.emitted_renumber,
        afterLane_shift]

/-- What is delivered next does not depend on what opening a chunk leads to. -/
theorem next_withOpener (c : Criteria) (m : Merge) (opener : Opener) :
    ({ m with opener := opener } : Merge).next c =
      ((m.next c).1, { (m.next c).2 with opener := opener }) := by
  obtain ⟨_, lanes, failures, number⟩ := m
  unfold next
  cases failures with
  | cons e failures => rfl
  | nil =>
    dsimp only
    cases leastLane? lanes with
    | none => rfl
    | some found => simp only [deliver_eq, afterLane]

/-- What a merge delivers next comes first, and then what it delivers from there on. -/
theorem drain_of_next {m' : Merge} {r : Except FeedError Record}
    (next : m.next c = (r.map some, m')) : m.drain c = r :: m'.drain c := by
  fun_cases drain c m with
  | case1 _ ended =>
    rw [ended] at next
    cases r <;> cases next
  | case2 r' _ found =>
    rw [found] at next
    cases r <;> cases next
    rfl
  | case3 e _ failed =>
    rw [failed] at next
    cases r <;> cases next
    rfl

/-- A merge whose numbers are greater delivers the same. -/
theorem drain_shift (c : Criteria) (m : Merge) : (m.shift k).drain c = m.drain c := by
  fun_induction drain c m with
  | case1 m m' next =>
    exact drain_of_isEmpty (next_eq_none_iff.mp (by rw [next_shift, next]))
  | case2 m r m' next ih =>
    rw [← ih]
    exact drain_of_next (r := .ok r) (by rw [next_shift, next]; rfl)
  | case3 m e m' next ih =>
    rw [← ih]
    exact drain_of_next (r := .error e) (by rw [next_shift, next]; rfl)

/-- Chunks that are opened when nothing is open deliver what a new merge delivers of them. -/
theorem drain_add_of_isEmpty (empty : m.isEmpty) (c : Criteria) (chunks : List Chunk) :
    (m.add c chunks).drain c = (({ opener := m.opener } : Merge).add c chunks).drain c := by
  obtain ⟨lanes, failures⟩ := isEmpty_iff.mp empty
  have shifted : m = ({ opener := m.opener } : Merge).shift m.nextNumber := by
    cases m
    simp_all [shift]
  rw [shifted, add_shift, drain_shift]
  rfl

end Merge

end RouteFeed
