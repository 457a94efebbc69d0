import RouteFeed.Proofs.Interspersing
import RouteFeed.Proofs.Merge.Deliveries

/-!
# Leaving out a place

Two merges run side by side: one in which all dumps are open, and one in which those at a certain
place are left out, as if they could not be opened. The lanes from elsewhere are the same in both,
but for their numbers: the one in which dumps are left out has used up fewer numbers, and numbers
the lanes in the same order. So whatever the first merge delivers from elsewhere the second one
delivers, too, and what the first one delivers from the place itself changes nothing for the second.

## Main definitions

* `Opener.without` — the opener that cannot open the dumps at a place
* `Opener.Gives` — what the dumps at a place may give
* `Merge.Erases` — the second merge is the first one without the dumps at a place

## Main results

* `Merge.Erases.next` — asking the first merge once
* `Merge.Erases.add` — opening chunks in both
-/

namespace RouteFeed

/-- The opener that cannot open the dumps at a place. -/
def Opener.without (opener : Opener) (place : String) : Opener := fun chunk =>
  if chunk.locator = place then .error (.unopenable place "left out") else opener chunk

/-- What the dumps at a place may give: their records, and the failures that stand behind them. -/
inductive Opener.Gives (opener : Opener) (place : String) : Except FeedError Record → Prop where
  /-- A record from there. -/
  | record {r : Record} (there : r.locator = place) : Gives opener place (.ok r)
  /-- The failure of a dump from there. -/
  | failure {chunk : Chunk} {x : Contents} {e : FeedError} (there : chunk.locator = place)
      (opens : opener chunk = .ok x) (damaged : x.failure? = some e) : Gives opener place (.error e)

theorem Contents.failure_of_error? {c : Criteria} {x : Contents} {e : FeedError}
    (h : x.error? c = some e) : x.failure? = some e := by
  unfold error? at h
  cases pulled : x.pull c with
  | found => simp [pulled] at h
  | finished => simp [pulled] at h
  | failed e' =>
    rw [pulled] at h
    rw [← h]
    exact (screened_of_failed pulled).2

/-! ## Lanes under other numbers -/

/-- A lane under another number. -/
def Lane.renumber (number : ℕ → ℕ) (l : Lane) : Lane := { l with number := number l.number }

theorem Contents.map_renumber_lane? (c : Criteria) (x : Contents) (chunk : Chunk) (n delivered : ℕ)
    (number : ℕ → ℕ) : (x.lane? c chunk n delivered).map (Lane.renumber number) =
      x.lane? c chunk (number n) delivered := by
  unfold lane?
  cases x.pull c <;> rfl

namespace Lane

variable {c : Criteria} {number : ℕ → ℕ} {l l' : Lane}

/-- Numbers in the same order leave the order of lanes as it is. -/
theorem key_renumber_le_iff (mono : StrictMono number) :
    (l.renumber number).key ≤ (l'.renumber number).key ↔ l.key ≤ l'.key := by
  simp only [key, renumber, Prod.Lex.toLex_le_toLex, mono.le_iff_le]

theorem number_eq_of_key_eq (h : l.key = l'.key) : l.number = l'.number := by
  simp only [key, toLex_inj, Prod.mk.injEq] at h
  exact h.2.2

theorem successor?_renumber (c : Criteria) (number : ℕ → ℕ) (l : Lane) :
    (l.renumber number).successor? c = (l.successor? c).map (renumber number) := by
  rw [successor?, successor?, Contents.map_renumber_lane?]
  rfl

theorem emitted_renumber (c : Criteria) (number : ℕ → ℕ) (l : Lane) :
    (l.renumber number).emitted c = l.emitted c := by
  unfold emitted
  rw [successor?_renumber, Option.isNone_map]
  rfl

theorem chunk_of_successor? (h : l.successor? c = some l') : l'.chunk = l.chunk := by
  rw [(Contents.pull_of_lane? h).2.1]

theorem failure_of_successor? (h : l.successor? c = some l') : l'.rest.failure? = l.rest.failure? :=
  Contents.failure_of_found (Contents.pull_of_lane? h).1

/-- Whether a lane is that of a dump elsewhere. -/
def isElsewhere (place : String) (l : Lane) : Bool := l.chunk.locator ≠ place

theorem isElsewhere_iff {place : String} : l.isElsewhere place ↔ l.chunk.locator ≠ place := by
  simp [isElsewhere]

end Lane

namespace Merge

variable {c : Criteria} {opener : Opener} {place : String} {number : ℕ → ℕ} {m m₀ m' : Merge}
  {chunk : Chunk} {l : Lane} {others : List Lane} {e : FeedError}

theorem opened?_spec (h : m.opened? c chunk = some l) :
    l.chunk = chunk ∧ ∃ x, m.opener chunk = .ok x ∧ x.failure? = l.rest.failure? := by
  unfold opened? at h
  cases opens : m.opener chunk with
  | error e => simp [opens] at h
  | ok x =>
    rw [opens] at h
    obtain ⟨pulled, lane, -⟩ := Contents.pull_of_lane? h
    exact ⟨by rw [lane], x, rfl, (Contents.failure_of_found pulled).symm⟩

theorem openError?_spec (h : m.openError? c chunk = some e) :
    ∃ x, m.opener chunk = .ok x ∧ x.failure? = some e := by
  unfold openError? at h
  cases opens : m.opener chunk with
  | error e => simp [opens] at h
  | ok x =>
    rw [opens] at h
    exact ⟨x, rfl, Contents.failure_of_error? h⟩

/-- The second merge is the first one without the dumps at a place. -/
structure Erases (opener : Opener) (place : String) (number : ℕ → ℕ) (m m₀ : Merge) : Prop where
  /-- The first merge opens all dumps. -/
  full : m.opener = opener
  /-- The second one leaves out those at the place. -/
  erased : m₀.opener = opener.without place
  /-- The lanes from elsewhere are in both, under different numbers. -/
  lanes : (m.lanes.filter (Lane.isElsewhere place)).Perm (m₀.lanes.map (Lane.renumber number))
  /-- What stands behind a lane from the place is the failure of a dump there. -/
  own : ∀ l ∈ m.lanes, l.chunk.locator = place → ∀ e, l.rest.failure? = some e →
    opener.Gives place (.error e)
  /-- The failures of other dumps wait in both. -/
  failures : Interspersed (fun e => opener.Gives place (.error e)) m₀.failures m.failures
  /-- The numbers are in the same order. -/
  mono : StrictMono number
  /-- Numbers that are not in use in the second merge stand for such in the first one. -/
  below : ∀ k < m₀.nextNumber, number k < m.nextNumber
  /-- The numbers of the second merge are different. -/
  numbered : m₀.Numbered

namespace Erases

theorem of_isEmpty (empty : m.isEmpty) (full : m.opener = opener) :
    ∃ number, Erases opener place number m { m with opener := opener.without place } := by
  obtain ⟨lanes, failures⟩ := isEmpty_iff.mp empty
  refine ⟨id, full, rfl, ?_, ?_, ?_, strictMono_id, fun k hk => hk, .of_lanes_eq_nil lanes⟩
  · simp [lanes]
  · simp [lanes]
  · exact .refl _

theorem isEmpty (erases : Erases opener place number m m₀) (empty : m.isEmpty) : m₀.isEmpty := by
  obtain ⟨noLanes, noFailures⟩ := isEmpty_iff.mp empty
  have lanes := erases.lanes
  have failures := erases.failures
  rw [noLanes, List.filter_nil, List.nil_perm, List.map_eq_nil_iff] at lanes
  rw [noFailures] at failures
  exact isEmpty_iff.mpr ⟨lanes, failures.eq_nil⟩

/-! ## Asking once -/

theorem own_afterLane (erases : Erases opener place number m m₀)
    (lanes : m.lanes.Perm (l :: others)) :
    ∀ o ∈ (m.afterLane c l others).lanes, o.chunk.locator = place →
      ∀ e, o.rest.failure? = some e → opener.Gives place (.error e) := by
  intro o ho there e damaged
  rcases List.mem_append.mp ho with other | successor
  · exact erases.own o (lanes.symm.subset (.tail _ other)) there e damaged
  · rw [Option.mem_toList] at successor
    rw [Lane.chunk_of_successor? successor] at there
    rw [Lane.failure_of_successor? successor] at damaged
    exact erases.own l (lanes.symm.subset List.mem_cons_self) there e damaged

/-- A lane from the place itself delivers its head. -/
theorem afterLane_own (erases : Erases opener place number m m₀)
    (lanes : m.lanes.Perm (l :: others)) (there : l.chunk.locator = place)
    (failures : m.failures = []) :
    Erases opener place number (m.afterLane c l others) m₀ where
  full := erases.full
  erased := erases.erased
  lanes := by
    have kept := (lanes.filter (Lane.isElsewhere place)).symm.trans erases.lanes
    -- what follows the head is from the place, too
    have gone : (l.successor? c).toList.filter (Lane.isElsewhere place) = [] := by
      cases hs : l.successor? c with
      | none => rfl
      | some l' => simp [Lane.isElsewhere, Lane.chunk_of_successor? hs, there]
    rw [List.filter_cons_of_neg (by simp [Lane.isElsewhere, there])] at kept
    rw [afterLane, List.filter_append, gone, List.append_nil]
    exact kept
  own := erases.own_afterLane lanes
  failures := by
    have kept := erases.failures
    rw [failures] at kept
    rw [afterLane, failures]
    cases he : l.rest.error? c with
    | none => simpa using kept
    | some e =>
      have damaged := Contents.failure_of_error? he
      exact kept.concat_insert (erases.own l (lanes.symm.subset List.mem_cons_self) there e damaged)
  mono := erases.mono
  below := erases.below
  numbered := erases.numbered

/-- A lane from elsewhere delivers its head, in both merges. -/
theorem afterLane_elsewhere (erases : Erases opener place number m m₀) {others₀ : List Lane}
    (lanes : m.lanes.Perm (l.renumber number :: others)) (lanes₀ : m₀.lanes.Perm (l :: others₀))
    (elsewhere : l.chunk.locator ≠ place) (failures : m.failures = []) :
    Erases opener place number (m.afterLane c (l.renumber number) others)
      (m₀.afterLane c l others₀) where
  full := erases.full
  erased := erases.erased
  lanes := by
    have kept := ((lanes.filter _).symm.trans erases.lanes).trans (lanes₀.map _)
    have picked : (l.renumber number).isElsewhere place := Lane.isElsewhere_iff.mpr elsewhere
    rw [List.filter_cons_of_pos picked, List.map_cons] at kept
    rw [afterLane, afterLane, List.filter_append, List.map_append, Lane.successor?_renumber]
    refine kept.cons_inv.append ?_
    cases hs : l.successor? c with
    | none => exact .nil
    | some l' => simp [Lane.isElsewhere, Lane.renumber, Lane.chunk_of_successor? hs, elsewhere]
  own := erases.own_afterLane lanes
  failures := by
    have kept := erases.failures
    rw [failures] at kept
    rw [afterLane, afterLane, failures, kept.eq_nil]
    exact .refl _
  mono := erases.mono
  below := erases.below
  numbered := erases.numbered.afterLane lanes₀

/-- A lane from elsewhere that comes first among all lanes comes first, too, among those that are
kept. -/
theorem exists_next (erases : Erases opener place number m m₀) (lanes : m.lanes.Perm (l :: others))
    (least : ∀ o ∈ others, l.key ≤ o.key) (elsewhere : l.chunk.locator ≠ place)
    (failures : m.failures = []) :
    ∃ m₀', m₀.next c = (.ok (some (l.emitted c)), m₀') ∧
      Erases opener place number (m.afterLane c l others) m₀' := by
  have kept := (lanes.filter (Lane.isElsewhere place)).symm.trans erases.lanes
  rw [List.filter_cons_of_pos (Lane.isElsewhere_iff.mpr elsewhere)] at kept
  have failures₀ : m₀.failures = [] := by
    have kept := erases.failures
    rw [failures] at kept
    exact kept.eq_nil
  obtain ⟨l₀, hl₀, same⟩ := List.mem_map.mp (kept.subset List.mem_cons_self)
  have advances := m₀.advances_next c
  generalize next : m₀.next c = result at advances
  cases advances with
  | ended noLanes => simp [noLanes] at hl₀
  | failure waiting => simp [failures₀] at waiting
  | @record l₁ others₁ _ lanes₁ least₁ =>
    have hl₁ : l₁ ∈ m₀.lanes := lanes₁.symm.subset List.mem_cons_self
    -- the lane that is picked and the one that is kept for `l` both have the least key
    have first : l₁.key ≤ l₀.key := by
      rcases List.mem_cons.mp (lanes₁.subset hl₀) with rfl | other
      · exact le_rfl
      · exact least₁ l₀ other
    have second : l₀.key ≤ l₁.key := by
      rw [← Lane.key_renumber_le_iff erases.mono, same]
      rcases List.mem_cons.mp (kept.symm.subset (List.mem_map_of_mem hl₁)) with eq | other
      · rw [← eq]
      · exact least _ (List.mem_of_mem_filter other)
    obtain rfl : l₁ = l₀ := List.inj_on_of_nodup_map erases.numbered.distinct hl₁ hl₀
      (Lane.number_eq_of_key_eq (le_antisymm first second))
    obtain rfl := same
    exact ⟨m₀.afterLane c l₁ others₁, by rw [Lane.emitted_renumber],
      erases.afterLane_elsewhere lanes lanes₁ elsewhere failures⟩

/-- What is delivered either comes from the place itself, and nothing happens where the place is
left out, or it is delivered there, too. -/
theorem next (erases : Erases opener place number m m₀) {result : Except FeedError Record}
    (asked : m.next c = (result.map some, m')) :
    opener.Gives place result ∧ Erases opener place number m' m₀ ∨
      ∃ m₀', m₀.next c = (result.map some, m₀') ∧ Erases opener place number m' m₀' := by
  have advances := asked ▸ m.advances_next c
  generalize delivered : result.map some = outcome at advances
  cases advances with
  | ended => cases result <;> cases delivered
  | @failure e failures waiting =>
    obtain rfl : result = .error e := by cases result <;> cases delivered; rfl
    have kept := erases.failures
    rw [waiting] at kept
    -- the failure that waits first is from the place, or it waits first in both merges
    generalize waiting₀ : m₀.failures = failures₀ at kept
    cases kept with
    | insert kind tail => exact .inl ⟨kind, { erases with failures := waiting₀ ▸ tail }⟩
    | @keep _ failures₀ _ tail =>
      have numbered : Numbered { m₀ with failures := failures₀ } :=
        ⟨erases.numbered.distinct, erases.numbered.fresh⟩
      exact .inr ⟨{ m₀ with failures := failures₀ }, by simp [Merge.next, waiting₀],
        { erases with failures := tail, numbered := numbered }⟩
  | @record l others failures lanes least =>
    obtain rfl : result = .ok (l.emitted c) := by cases result <;> cases delivered; rfl
    by_cases there : l.chunk.locator = place
    · exact .inl ⟨.record there, erases.afterLane_own lanes there failures⟩
    · exact .inr (erases.exists_next lanes least there failures)

/-! ## Opening chunks -/

/-- A chunk from the place itself is opened. -/
theorem addChunk_own (erases : Erases opener place number m m₀) (there : chunk.locator = place) :
    Erases opener place number (m.addChunk c chunk) (m₀.addChunk c chunk) := by
  -- the second merge stays as it is, and its numbers stand for the same ones as before
  have closed : m₀.addChunk c chunk = m₀ := by
    simp [addChunk, erases.erased, Opener.without, there]
  rw [closed, addChunk_eq]
  refine ⟨erases.full, erases.erased, ?_, ?_, ?_, erases.mono,
    fun k hk => (erases.below k hk).trans_le (Nat.le_add_right _ _), erases.numbered⟩
  · have gone : (m.opened? c chunk).toList.filter (Lane.isElsewhere place) = [] := by
      cases ho : m.opened? c chunk with
      | none => rfl
      | some l => simp [Lane.isElsewhere, (opened?_spec ho).1, there]
    rw [List.filter_append, gone, List.append_nil]
    exact erases.lanes
  · intro l hl thereL e damaged
    rcases List.mem_append.mp hl with old | new
    · exact erases.own l old thereL e damaged
    · rw [Option.mem_toList] at new
      obtain ⟨-, x, opens, failure⟩ := opened?_spec new
      rw [erases.full] at opens
      exact .failure there opens (failure.trans damaged)
  · cases he : m.openError? c chunk with
    | none => simpa using erases.failures
    | some e =>
      obtain ⟨x, opens, failure⟩ := openError?_spec he
      rw [erases.full] at opens
      exact erases.failures.concat_insert (.failure there opens failure)

/-- Numbers up to a bound, and behind it those from another number on. -/
def extendNumber (number : ℕ → ℕ) (bound next : ℕ) (k : ℕ) : ℕ :=
  if k < bound then number k else next + (k - bound)

theorem extendNumber_of_lt {bound next k : ℕ} (h : k < bound) :
    extendNumber number bound next k = number k := if_pos h

theorem extendNumber_self (bound next : ℕ) : extendNumber number bound next bound = next := by
  simp [extendNumber]

theorem strictMono_extendNumber {bound next : ℕ} (mono : StrictMono number)
    (below : ∀ k < bound, number k < next) : StrictMono (extendNumber number bound next) := by
  intro i j less
  unfold extendNumber
  split_ifs with hi hj hj
  · exact mono less
  · exact (below i hi).trans_le (Nat.le_add_right _ _)
  · omega
  · omega

theorem opener_elsewhere (erases : Erases opener place number m m₀)
    (elsewhere : chunk.locator ≠ place) : m₀.opener chunk = m.opener chunk := by
  rw [erases.erased, erases.full, Opener.without, if_neg elsewhere]

/-- The lane of a chunk from elsewhere gets the next number of each merge. -/
theorem opened?_elsewhere (erases : Erases opener place number m m₀)
    (elsewhere : chunk.locator ≠ place) : m.opened? c chunk = (m₀.opened? c chunk).map
      (Lane.renumber (extendNumber number m₀.nextNumber m.nextNumber)) := by
  unfold opened?
  rw [erases.opener_elsewhere elsewhere]
  cases m.opener chunk with
  | error e => rfl
  | ok x => rw [Contents.map_renumber_lane?, extendNumber_self]

/-- A chunk from elsewhere is opened in both merges. -/
theorem addChunk_elsewhere (erases : Erases opener place number m m₀)
    (elsewhere : chunk.locator ≠ place) :
    Erases opener place (extendNumber number m₀.nextNumber m.nextNumber) (m.addChunk c chunk)
      (m₀.addChunk c chunk) := by
  have opened := erases.opened?_elsewhere (c := c) elsewhere
  have failed : m.openError? c chunk = m₀.openError? c chunk := by
    unfold openError?
    rw [erases.opener_elsewhere elsewhere]
  have old : m₀.lanes.map (Lane.renumber (extendNumber number m₀.nextNumber m.nextNumber)) =
      m₀.lanes.map (Lane.renumber number) := by
    refine List.map_congr_left fun l hl => ?_
    rw [Lane.renumber, Lane.renumber, extendNumber_of_lt (erases.numbered.fresh l hl)]
  have numbered := erases.numbered.addChunk (c := c) chunk
  rw [addChunk_eq, addChunk_eq] at *
  refine ⟨erases.full, erases.erased, ?_, ?_, ?_, ?_, ?_, numbered⟩
  · rw [List.filter_append, List.map_append, old, opened]
    refine erases.lanes.append ?_
    cases ho : m₀.opened? c chunk with
    | none => exact .nil
    | some l => simp [Lane.isElsewhere, Lane.renumber, (opened?_spec ho).1, elsewhere]
  · intro l hl there e damaged
    rcases List.mem_append.mp hl with before | new
    · exact erases.own l before there e damaged
    · rw [Option.mem_toList] at new
      exact absurd ((opened?_spec new).1 ▸ there) elsewhere
  · rw [failed]
    cases m₀.openError? c chunk with
    | none => simpa using erases.failures
    | some e => exact erases.failures.concat e
  · exact strictMono_extendNumber erases.mono erases.below
  · -- the number that is new in the second merge stands for the one that is new in the first
    intro k hk
    have length : (m.opened? c chunk).toList.length = (m₀.opened? c chunk).toList.length := by
      rw [opened]
      cases m₀.opened? c chunk <;> rfl
    have bound := erases.below k
    simp only [length] at hk ⊢
    unfold extendNumber
    split_ifs with before
    · exact (bound before).trans_le (Nat.le_add_right _ _)
    · omega

theorem add (erases : Erases opener place number m m₀) (c : Criteria) (chunks : List Chunk) :
    ∃ number', Erases opener place number' (m.add c chunks) (m₀.add c chunks) := by
  unfold Merge.add
  induction chunks generalizing number m m₀ with
  | nil => exact ⟨number, erases⟩
  | cons chunk chunks ih =>
    by_cases there : chunk.locator = place
    · exact ih (erases.addChunk_own there)
    · exact ih (erases.addChunk_elsewhere there)

end Erases

end Merge

end RouteFeed
