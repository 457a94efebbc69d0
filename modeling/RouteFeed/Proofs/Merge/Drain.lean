import Mathlib.Algebra.Ring.Nat
import RouteFeed.Proofs.Interleaving
import RouteFeed.Proofs.Merge.Decoding
import RouteFeed.Proofs.Merge.LaneOrder

/-!
# Draining a merge

Opening a chunk and delivering the head of a lane both pull once from what is left of a dump, and go
on with a lane, or with a failure, or with nothing. A merge is *drained* by asking it until it has
nothing more. Every question that is answered makes the merge smaller, so draining comes to an end;
under fixed criteria it gives an interleaving of what the lanes have still to deliver, in which no
record and no failure is lost or doubled.

## Main definitions

* `Contents.lane?`, `Contents.error?` — what a pull leaves open, and the failure that it finds
* `Lane.emitted`, `Lane.successor?` — what a lane delivers, and the lane afterwards
* `Merge.Advances` — what asking a merge once may lead to
* `Merge.drain` — everything that a merge delivers until it is empty

## Main results

* `Merge.advances_next` — asking a merge once does what `Merge.Advances` says
* `Merge.drain_interleaves` — draining gives an interleaving of what the lanes have to deliver
* `Merge.outputs_add` — opening chunks adds what they have to deliver
-/

namespace RouteFeed

/-! ## Pulling once -/

namespace Contents

variable (c : Criteria) (x : Contents)

/-- The lane that is open after a pull; none if it found no record. -/
def lane? (chunk : Chunk) (number delivered : ℕ) : Option Lane :=
  match x.pull c with
  | .found head rest => some ⟨chunk, head, rest, number, delivered⟩
  | _ => none

/-- The failure that a pull finds. -/
def error? : Option FeedError :=
  match x.pull c with
  | .failed e => some e
  | _ => none

variable {c x} {chunk : Chunk} {number delivered : ℕ} {l : Lane}

theorem pull_of_lane? (h : x.lane? c chunk number delivered = some l) :
    x.pull c = .found l.head l.rest ∧ l = ⟨chunk, l.head, l.rest, number, delivered⟩ ∧
      x.error? c = none := by
  unfold lane? at h
  unfold error?
  cases hp : x.pull c with
  | found head rest =>
    simp only [hp, Option.some.injEq] at h
    subst h
    exact ⟨rfl, rfl, rfl⟩
  | finished => simp [hp] at h
  | failed e => simp [hp] at h

theorem screened_of_lane?_eq_none (h : x.lane? c chunk number delivered = none) :
    x.screened c = [] ∧ x.error? c = x.failure? := by
  unfold lane? at h
  unfold error?
  cases hp : x.pull c with
  | found head rest => simp [hp] at h
  | finished =>
    obtain ⟨nothing, whole⟩ := screened_of_finished hp
    exact ⟨nothing, whole.symm⟩
  | failed e =>
    obtain ⟨nothing, damaged⟩ := screened_of_failed hp
    exact ⟨nothing, damaged.symm⟩

/-- After a pull there is as much to deliver as before. -/
theorem output_lane? (c : Criteria) (x : Contents) (chunk : Chunk) (number delivered : ℕ) :
    (x.lane? c chunk number delivered).elim ((x.error? c).map .error).toList (Lane.output c) =
      (chunk.deliver delivered (x.screened c)).map .ok ++ (x.failure?.map .error).toList := by
  cases h : x.lane? c chunk number delivered with
  | none =>
    obtain ⟨nothing, failure⟩ := screened_of_lane?_eq_none h
    simp [nothing, failure, Chunk.deliver]
  | some l =>
    obtain ⟨pulled, lane, -⟩ := pull_of_lane? h
    rw [screened_of_found pulled, ← failure_of_found pulled, lane]
    rfl

end Contents

namespace Lane

variable (c : Criteria) (l : Lane)

/-- The lane after its head has been delivered; none if that was its last record. -/
def successor? : Option Lane := l.rest.lane? c l.chunk l.number (l.delivered + 1)

/-- What a lane delivers next. -/
def emitted : Record :=
  l.head.ofChunk l.chunk
    (if (l.successor? c).isNone then .last else if l.delivered = 0 then .first else .middle)

/-- A bound for what may be asked of a lane: its head, its records and a failure. -/
def size : ℕ := l.rest.records.length + 2

/-- A lane delivers the first record that it has to deliver, and its successor has the others. -/
theorem upcoming_eq : l.upcoming c = l.emitted c :: (l.successor? c).elim [] (upcoming c) := by
  rw [upcoming, emitted]
  cases h : l.successor? c with
  | none =>
    obtain ⟨nothing, -⟩ := Contents.screened_of_lane?_eq_none h
    simp [nothing, Chunk.deliver]
  | some l' =>
    obtain ⟨pulled, lane, -⟩ := Contents.pull_of_lane? h
    rw [Contents.screened_of_found pulled, lane]
    simp [Chunk.deliver, upcoming]

/-- What a lane has to deliver: first its head, then what its successor has to deliver or else the
failure behind it. -/
theorem output_eq :
    l.output c = .ok (l.emitted c) ::
      (l.successor? c).elim ((l.rest.error? c).map .error).toList (output c) := by
  rw [output, upcoming_eq]
  cases h : l.successor? c with
  | none =>
    obtain ⟨-, failure⟩ := Contents.screened_of_lane?_eq_none h
    simp [failure]
  | some l' =>
    obtain ⟨pulled, -, -⟩ := Contents.pull_of_lane? h
    simp [output, Contents.failure_of_found pulled]

theorem size_successor_lt :
    ((l.successor? c).toList.map size).sum + (l.rest.error? c).toList.length < l.size := by
  cases h : l.successor? c with
  | none => cases l.rest.error? c <;> simp [size]
  | some l' =>
    obtain ⟨pulled, -, failure⟩ := Contents.pull_of_lane? h
    simpa [failure, size] using Contents.length_of_found pulled

end Lane

namespace Merge

/-! ## One question -/

/-- A merge after a lane has delivered its head; the others are those that stay as they are. -/
def afterLane (c : Criteria) (m : Merge) (l : Lane) (others : List Lane) : Merge :=
  { m with
    lanes := others ++ (l.successor? c).toList
    failures := m.failures ++ (l.rest.error? c).toList }

theorem deliver_eq (c : Criteria) (m : Merge) (l : Lane) (others : List Lane) :
    m.deliver c l others = (l.emitted c, m.afterLane c l others) := by
  unfold deliver afterLane Lane.emitted Lane.successor? Contents.lane? Contents.error?
  cases l.rest.pull c <;> simp

/-- What asking a merge once may lead to. -/
inductive Advances (c : Criteria) (m : Merge) :
    Except FeedError (Option Record) × Merge → Prop where
  /-- No dump is open and no failure waits. -/
  | ended (lanes : m.lanes = []) (failures : m.failures = []) : Advances c m (.ok none, m)
  /-- The oldest failure is delivered. -/
  | failure {e : FeedError} {failures : List FeedError} (waiting : m.failures = e :: failures) :
      Advances c m (.error e, { m with failures := failures })
  /-- No failure waits, and a lane with the least key delivers. -/
  | record {l : Lane} {others : List Lane} (failures : m.failures = [])
      (lanes : m.lanes.Perm (l :: others)) (least : ∀ o ∈ others, l.key ≤ o.key) :
      Advances c m (.ok (some (l.emitted c)), m.afterLane c l others)

theorem advances_next (c : Criteria) (m : Merge) : Advances c m (m.next c) := by
  unfold next
  cases hf : m.failures with
  | cons e failures => exact .failure hf
  | nil =>
    dsimp only
    cases hl : leastLane? m.lanes with
    | none => exact .ended (leastLane?_eq_none_iff.mp hl) hf
    | some found =>
      obtain ⟨l, others⟩ := found
      obtain ⟨lanes, least⟩ := leastLane?_spec hl
      simp only [deliver_eq]
      exact .record hf lanes least

@[simp] theorem isEmpty_iff {m : Merge} : m.isEmpty ↔ m.lanes = [] ∧ m.failures = [] := by
  rw [isEmpty, Bool.and_eq_true, List.isEmpty_iff, List.isEmpty_iff]

/-- Only a merge that is empty has nothing more. -/
theorem next_eq_none_iff {c : Criteria} {m : Merge} : (m.next c).1 = .ok none ↔ m.isEmpty := by
  have advances := m.advances_next c
  generalize m.next c = result at advances
  rw [isEmpty_iff]
  cases advances with
  | ended lanes failures => simp [lanes, failures]
  | failure waiting => simp [waiting]
  | record failures lanes =>
    have some_lane : m.lanes ≠ [] := fun none_open => by simp [none_open] at lanes
    simp [some_lane]

/-- A merge that is not empty has something to deliver. -/
theorem exists_next_of_not_isEmpty {m : Merge} (busy : ¬ m.isEmpty) (c : Criteria) :
    ∃ result m', m.next c = (result, m') ∧ result ≠ .ok none :=
  ⟨_, _, rfl, mt next_eq_none_iff.mp busy⟩

@[simp] theorem opener_next (c : Criteria) (m : Merge) : (m.next c).2.opener = m.opener := by
  have advances := m.advances_next c
  generalize m.next c = result at advances
  cases advances <;> rfl

/-- A bound for the number of questions that a merge answers. -/
def size (m : Merge) : ℕ := m.failures.length + (m.lanes.map Lane.size).sum

/-- Every question that is answered makes a merge smaller. -/
theorem Advances.size_lt {c : Criteria} {m m' : Merge} {result : Except FeedError (Option Record)}
    (h : Advances c m (result, m')) (answered : result ≠ .ok none) : m'.size < m.size := by
  cases h with
  | ended => exact absurd rfl answered
  | failure waiting => simp [size, waiting]
  | @record l others failures lanes least =>
    have sum := (lanes.map Lane.size).sum_nat
    have smaller := l.size_successor_lt c
    simp only [List.map_cons, List.sum_cons] at sum
    simp only [size, afterLane, failures, sum, List.map_append, List.sum_append, List.nil_append,
      List.length_nil]
    omega

/-- Everything that a merge delivers when it is asked until it has nothing more. -/
def drain (c : Criteria) (m : Merge) : List (Except FeedError Record) :=
  match _h : m.next c with
  | (.ok none, _) => []
  | (.ok (some r), m') => .ok r :: m'.drain c
  | (.error e, m') => .error e :: m'.drain c
termination_by m.size
decreasing_by
  all_goals exact (_h ▸ m.advances_next c).size_lt (by simp)

theorem drain_of_isEmpty {c : Criteria} {m : Merge} (empty : m.isEmpty) : m.drain c = [] := by
  have nothing := (next_eq_none_iff (c := c)).mpr empty
  fun_cases drain c m with
  | case1 => rfl
  | case2 _ _ next => simp [next] at nothing
  | case3 _ _ next => simp [next] at nothing

/-- What holds of an empty merge and nothing, and is kept when one more result is delivered, holds
of every merge and what draining it gives. -/
theorem drain_induction {c : Criteria} {P : Merge → List (Except FeedError Record) → Prop}
    (ended : ∀ m : Merge, m.lanes = [] → m.failures = [] → P m [])
    (failure : ∀ (m : Merge) e failures rs, m.failures = e :: failures →
      P { m with failures := failures } rs → P m (.error e :: rs))
    (record : ∀ (m : Merge) l others rs, m.failures = [] → m.lanes.Perm (l :: others) →
      (∀ o ∈ others, l.key ≤ o.key) → P (m.afterLane c l others) rs →
        P m (.ok (l.emitted c) :: rs))
    (m : Merge) : P m (m.drain c) := by
  fun_induction drain c m with
  | case1 m _ next =>
    have advances := next ▸ m.advances_next c
    cases advances with
    | ended lanes failures => exact ended m lanes failures
  | case2 m r m' next ih =>
    have advances := next ▸ m.advances_next c
    cases advances with
    | record failures lanes least => exact record m _ _ _ failures lanes least ih
  | case3 m e m' next ih =>
    have advances := next ▸ m.advances_next c
    cases advances with
    | failure waiting => exact failure m e _ _ waiting ih

/-! ## Nothing is lost or doubled -/

/-- What a merge has still to deliver under fixed criteria: each failure, and what each lane has to
deliver. -/
def outputs (c : Criteria) (m : Merge) : List (List (Except FeedError Record)) :=
  m.failures.map (fun e => [.error e]) ++ m.lanes.map (Lane.output c)

/-- Delivering the head of a lane takes just this record away. -/
theorem interleaves_record {c : Criteria} {m : Merge} {l : Lane} {others : List Lane}
    {rs : List (Except FeedError Record)} (failures : m.failures = [])
    (lanes : m.lanes.Perm (l :: others)) (h : Interleaves ((m.afterLane c l others).outputs c) rs) :
    Interleaves (m.outputs c) (.ok (l.emitted c) :: rs) := by
  have before : (m.outputs c).Perm (l.output c :: others.map (Lane.output c)) := by
    simpa [outputs, failures] using lanes.map (Lane.output c)
  rw [l.output_eq c] at before
  refine .cons before ?_
  cases hs : l.successor? c with
  | some l' =>
    obtain ⟨-, -, noError⟩ := Contents.pull_of_lane? hs
    refine h.perm ?_
    simp [outputs, afterLane, failures, hs, noError, List.perm_append_singleton]
  | none =>
    cases he : l.rest.error? c with
    | some e => simpa [outputs, afterLane, failures, hs, he] using h
    | none =>
      refine .nil_cons ?_
      simpa [outputs, afterLane, failures, hs, he] using h

/-- Draining gives an interleaving of what the merge has to deliver. -/
theorem drain_interleaves (c : Criteria) (m : Merge) : Interleaves (m.outputs c) (m.drain c) := by
  refine drain_induction (fun m lanes failures => ?_) (fun m e failures rs waiting ih => ?_)
    (fun m l others rs failures lanes _ ih => interleaves_record failures lanes ih) m
  · exact .nil (by simp [outputs, lanes, failures])
  · have next : (m.outputs c).Perm ([.error e] :: outputs c { m with failures := failures }) := by
      simp [outputs, waiting]
    exact .cons next ih.nil_cons

/-! ## Opening chunks -/

/-- The lane that opening a chunk adds. -/
def opened? (c : Criteria) (m : Merge) (chunk : Chunk) : Option Lane :=
  match m.opener chunk with
  | .error _ => none
  | .ok x => x.lane? c chunk m.nextNumber 0

/-- The failure that opening a chunk and decoding its first records finds. -/
def openError? (c : Criteria) (m : Merge) (chunk : Chunk) : Option FeedError :=
  match m.opener chunk with
  | .error _ => none
  | .ok x => x.error? c

theorem addChunk_eq (c : Criteria) (m : Merge) (chunk : Chunk) :
    m.addChunk c chunk =
      { m with
        lanes := m.lanes ++ (m.opened? c chunk).toList
        failures := m.failures ++ (m.openError? c chunk).toList
        nextNumber := m.nextNumber + (m.opened? c chunk).toList.length } := by
  unfold addChunk opened? openError?
  cases m.opener chunk with
  | error e => simp
  | ok x =>
    dsimp only [Contents.lane?, Contents.error?]
    cases x.pull c <;> simp

/-- What a chunk adds is the lane and the failure that opening it leads to. -/
theorem output_opened? (c : Criteria) (m : Merge) (chunk : Chunk) :
    (m.opened? c chunk).elim ((m.openError? c chunk).map .error).toList (Lane.output c) =
      m.opener.output c chunk := by
  unfold opened? openError? Opener.output
  cases m.opener chunk with
  | error e => rfl
  | ok x => exact x.output_lane? c chunk m.nextNumber 0

@[simp] theorem opener_addChunk (c : Criteria) (m : Merge) (chunk : Chunk) :
    (m.addChunk c chunk).opener = m.opener := by rw [addChunk_eq]

@[simp] theorem opener_add (c : Criteria) (chunks : List Chunk) (m : Merge) :
    (m.add c chunks).opener = m.opener := by
  unfold add
  induction chunks generalizing m with
  | nil => rfl
  | cons chunk chunks ih => rw [List.foldl_cons, ih, opener_addChunk]

/-- A chunk whose lane is open has not failed. -/
theorem openError?_of_opened? {c : Criteria} {m : Merge} {chunk : Chunk} {l : Lane}
    (h : m.opened? c chunk = some l) : m.openError? c chunk = none := by
  unfold opened? at h
  unfold openError?
  cases ho : m.opener chunk with
  | error e => rfl
  | ok x =>
    rw [ho] at h
    exact (Contents.pull_of_lane? h).2.2

/-- Opening a chunk adds what it has to deliver, if it has anything. -/
theorem outputs_addChunk (c : Criteria) (m : Merge) (chunk : Chunk) :
    ((m.addChunk c chunk).outputs c).Perm
      ([m.opener.output c chunk].filter (· ≠ []) ++ m.outputs c) := by
  rw [addChunk_eq, ← output_opened?]
  unfold outputs
  cases ho : m.opened? c chunk with
  | some l =>
    have something : l.output c ≠ [] := by simp [l.output_eq c]
    simp [openError?_of_opened? ho, something, ← List.append_assoc, List.perm_append_singleton]
  | none =>
    cases he : m.openError? c chunk with
    | some e => simp [List.perm_middle]
    | none => simp

theorem outputs_add (c : Criteria) (chunks : List Chunk) (m : Merge) :
    ((m.add c chunks).outputs c).Perm
      ((chunks.map (m.opener.output c)).filter (· ≠ []) ++ m.outputs c) := by
  unfold add
  induction chunks generalizing m with
  | nil => simp
  | cons chunk chunks ih =>
    rw [List.foldl_cons, List.map_cons, ← List.singleton_append, List.filter_append]
    have ih := ih (m.addChunk c chunk)
    rw [opener_addChunk] at ih
    have first := (outputs_addChunk c m chunk).append_left
      ((chunks.map (m.opener.output c)).filter (· ≠ []))
    refine (ih.trans first).trans ?_
    rw [← List.append_assoc]
    exact List.perm_append_comm.append_right _

/-- If chunks are opened when nothing is left, it does not matter that those that deliver nothing
have not been kept. -/
theorem interleaves_of_add {c : Criteria} {chunks : List Chunk} {m : Merge}
    {others : List (List (Except FeedError Record))} {results : List (Except FeedError Record)}
    (empty : m.isEmpty) (h : Interleaves ((m.add c chunks).outputs c ++ others) results) :
    Interleaves (chunks.map (m.opener.output c) ++ others) results := by
  obtain ⟨lanes, failures⟩ := isEmpty_iff.mp empty
  have opened := m.outputs_add c chunks
  rw [show m.outputs c = [] by simp [outputs, lanes, failures], List.append_nil] at opened
  exact (h.perm (opened.append_right others)).of_filter_append

end Merge

end RouteFeed
