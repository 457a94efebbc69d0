import RouteFeed.Catalogue.Replay
import RouteFeed.Proofs.Discovery.Admission
import RouteFeed.Proofs.Discovery.Fetching
import RouteFeed.Proofs.Seconds

/-!
# Chunks that are listed again

Of all chunks that a catalogue has ever listed, those are remembered that are not more than a week
older than the newest one. While an answer is offered, its own chunks are remembered, too, however
old they are; behind it they are forgotten again. The newest time never goes back, so what has been
forgotten once would be forgotten at every later answer.

## Main definitions

* `Admission.IsNewest` — the time of the newest chunk
* `Admission.Knows` — what is remembered while an answer is offered
* `Admission.Remembers` — what is remembered between answers

## Main results

* `Admission.mem_seen_offerEach` — each chunk that is offered is remembered
* `Admission.Remembers.offerAll` — one answer
* `Discovery.Fetches.remembers` — any number of calls
* `Discovery.suppresses_duplicates` — which chunks are dropped as listed again
-/

namespace RouteFeed

namespace Admission

variable {period? : Option UInt32} {a : Admission} {c chunk : Chunk} {key : ChunkKey}
  {chunks listed : List Chunk}

/-! ## One chunk -/

theorem seen_offer (period? : Option UInt32) (a : Admission) (c : Chunk) :
    (offer period? a c).2.seen = if c.key ∈ a.seen then a.seen else c.key :: a.seen := by
  unfold offer
  split_ifs with again
  · rfl
  · dsimp only
    split
    · split_ifs <;> rfl
    · rfl

theorem newest_offer (period? : Option UInt32) (a : Admission) (c : Chunk) :
    (offer period? a c).2.newest =
      if c.key ∈ a.seen then a.newest else a.newest.later c.fileTime := by
  unfold offer
  split_ifs with again
  · rfl
  · dsimp only
    split
    · split_ifs <;> rfl
    · rfl

theorem mem_seen_offer : key ∈ (offer period? a c).2.seen ↔ key ∈ a.seen ∨ c.key = key := by
  rw [seen_offer]
  split_ifs with again
  · constructor
    · exact .inl
    · rintro (known | rfl)
      · exact known
      · exact again
  · rw [List.mem_cons, or_comm, eq_comm]

/-- A chunk that has been listed before is dropped and leaves no trace, and no other one does so. -/
theorem offer_eq_iff : offer period? a c = (false, a) ↔ c.key ∈ a.seen := by
  constructor
  · intro dropped
    by_contra unknown
    have seen := seen_offer period? a c
    rw [dropped, if_neg unknown] at seen
    exact List.cons_ne_self _ _ seen.symm
  · intro again
    rw [offer, if_pos again]

theorem le_newest_offer (period? : Option UInt32) (a : Admission) (c : Chunk) :
    a.newest ≤ (offer period? a c).2.newest := by
  rw [newest_offer]
  split_ifs
  · exact Int64.le_refl _
  · exact Seconds.le_later_left _ _

/-! ## The chunks of an answer -/

theorem mem_seen_offerEach : key ∈ (offerEach period? chunks a).2.seen ↔
    key ∈ a.seen ∨ ∃ chunk ∈ chunks, chunk.key = key := by
  induction chunks generalizing a with
  | nil => simp [offerEach]
  | cons c chunks ih =>
    rw [offerEach, ih, mem_seen_offer, List.exists_mem_cons_iff, or_assoc]

theorem offerEach_append (period? : Option UInt32) (before after : List Chunk) (a : Admission) :
    offerEach period? (before ++ after) a =
      ((offerEach period? before a).1 ++
          (offerEach period? after (offerEach period? before a).2).1,
        (offerEach period? after (offerEach period? before a).2).2) := by
  induction before generalizing a with
  | nil => rfl
  | cons c before ih =>
    simp only [List.cons_append, offerEach, ih]
    split_ifs <;> rfl

theorem le_newest_offerEach (period? : Option UInt32) (chunks : List Chunk) (a : Admission) :
    a.newest ≤ (offerEach period? chunks a).2.newest := by
  induction chunks generalizing a with
  | nil => exact Int64.le_refl _
  | cons c chunks ih => exact Int64.le_trans (le_newest_offer period? a c) (ih _)

theorem nodup_offerEach (period? : Option UInt32) (chunks : List Chunk) (a : Admission) :
    ((offerEach period? chunks a).1.map Chunk.key).Nodup ∧
      ∀ chunk ∈ (offerEach period? chunks a).1, chunk.key ∉ a.seen := by
  induction chunks generalizing a with
  | nil => simp [offerEach]
  | cons c chunks ih =>
    obtain ⟨nodup, unknown⟩ := ih (offer period? a c).2
    rw [offerEach]
    dsimp only
    split_ifs with admitted
    · -- what is admitted has not been seen, and is seen by all chunks behind it
      have new : c.key ∉ a.seen := by
        intro again
        rw [offer_eq_iff.mpr again] at admitted
        exact Bool.false_ne_true admitted
      refine ⟨List.nodup_cons.mpr ⟨?_, nodup⟩, List.forall_mem_cons.mpr ⟨new, ?_⟩⟩
      · intro again
        obtain ⟨chunk, later, same⟩ := List.mem_map.mp again
        exact unknown chunk later (mem_seen_offer.mpr (.inr same.symm))
      · exact fun chunk later seen => unknown chunk later (mem_seen_offer.mpr (.inl seen))
    · exact ⟨nodup, fun chunk later seen => unknown chunk later (mem_seen_offer.mpr (.inl seen))⟩

/-! ## The newest time -/

/-- A time is that of the newest of some chunks, and the least time if there are none. -/
structure IsNewest (listed : List Chunk) (t : Seconds) : Prop where
  bound : ∀ chunk ∈ listed, chunk.fileTime ≤ t
  attained : listed = [] ∧ t = Seconds.least ∨ ∃ chunk ∈ listed, chunk.fileTime = t

theorem IsNewest.concat {t : Seconds} (newest : IsNewest listed t) (c : Chunk) :
    IsNewest (listed ++ [c]) (t.later c.fileTime) := by
  refine ⟨?_, .inr ?_⟩
  · rw [List.forall_mem_append, List.forall_mem_singleton]
    refine ⟨fun chunk before => ?_, Seconds.le_later_right _ _⟩
    exact Int64.le_trans (newest.bound chunk before) (Seconds.le_later_left _ _)
  · unfold Seconds.later
    split_ifs with ge
    · exact ⟨c, by simp, rfl⟩
    · rcases newest.attained with ⟨-, rfl⟩ | ⟨chunk, before, here⟩
      · exact absurd (Int64.minValue_le c.fileTime) ge
      · exact ⟨chunk, by simp [before], here⟩

/-! ## What is remembered -/

/-- What is remembered while an answer is offered: each key that is remembered was listed. -/
structure Knows (listed : List Chunk) (a : Admission) : Prop where
  newest : IsNewest listed a.newest
  known : ∀ key ∈ a.seen, ∃ chunk ∈ listed, chunk.key = key

theorem fileTime_eq_of_key_eq (same : chunk.key = c.key) : chunk.fileTime = c.fileTime :=
  congrArg ChunkKey.fileTime same

/-- The newest time is the later one, also if the chunk is dropped: then another one of its key, and
so of its time, was listed before. -/
theorem Knows.newest_offer (knows : Knows listed a) (period? : Option UInt32) (c : Chunk) :
    (Admission.offer period? a c).2.newest = a.newest.later c.fileTime := by
  rw [Admission.newest_offer]
  split_ifs with again
  · obtain ⟨chunk, before, same⟩ := knows.known c.key again
    have le : c.fileTime ≤ a.newest := by
      rw [← fileTime_eq_of_key_eq same]
      exact knows.newest.bound chunk before
    unfold Seconds.later
    split_ifs with ge
    · exact Int64.le_antisymm ge le
    · rfl
  · rfl

theorem Knows.offer (knows : Knows listed a) (period? : Option UInt32) (c : Chunk) :
    Knows (listed ++ [c]) (Admission.offer period? a c).2 := by
  refine ⟨?_, fun key seen => ?_⟩
  · rw [knows.newest_offer]
    exact knows.newest.concat c
  · rcases mem_seen_offer.mp seen with before | rfl
    · obtain ⟨chunk, was_listed, same⟩ := knows.known key before
      exact ⟨chunk, by simp [was_listed], same⟩
    · exact ⟨c, by simp, rfl⟩

theorem Knows.offerEach (knows : Knows listed a) (period? : Option UInt32) (chunks : List Chunk) :
    Knows (listed ++ chunks) (Admission.offerEach period? chunks a).2 :=
  offerEach_keeps (fun _ _ c earlier => earlier.offer period? c) chunks knows

/-- What is remembered between answers of all the chunks that have been listed: those that are not
more than a week older than the newest one, and its time. -/
structure Remembers (listed : List Chunk) (a : Admission) : Prop where
  newest : IsNewest listed a.newest
  seen_iff : ∀ key, key ∈ a.seen ↔
    ∃ chunk ∈ listed, chunk.key = key ∧ a.newest.satSub horizonLength ≤ chunk.fileTime

namespace Remembers

theorem empty : Remembers [] {} := ⟨⟨by simp, .inl ⟨rfl, rfl⟩⟩, by simp⟩

theorem knows (remembers : Remembers listed a) : Knows listed a where
  newest := remembers.newest
  known key seen := by
    obtain ⟨chunk, was_listed, same, -⟩ := (remembers.seen_iff key).mp seen
    exact ⟨chunk, was_listed, same⟩

/-- One answer adds its chunks to those that were listed. -/
theorem offerAll (remembers : Remembers listed a) (period? : Option UInt32) (chunks : List Chunk) :
    Remembers (listed ++ chunks) (Admission.offerAll period? chunks a).2 := by
  have knows := remembers.knows.offerEach period? chunks
  have later := le_newest_offerEach period? chunks a
  refine ⟨knows.newest, fun key => ?_⟩
  change key ∈ (Admission.offerEach period? chunks a).2.seen.filter _ ↔ _
  rw [List.mem_filter, decide_eq_true_iff]
  constructor
  · -- what is seen was listed, and what is not forgotten is recent
    rintro ⟨seen, recent⟩
    obtain ⟨chunk, was_listed, rfl⟩ := knows.known key seen
    exact ⟨chunk, was_listed, rfl, recent⟩
  · rintro ⟨chunk, was_listed, rfl, recent⟩
    refine ⟨mem_seen_offerEach.mpr ?_, recent⟩
    rcases List.mem_append.mp was_listed with before | now
    · -- the horizon has not gone back, so the chunk had not been forgotten
      have recentBefore := Int64.le_trans (Seconds.satSub_le_satSub later horizonLength) recent
      exact .inl ((remembers.seen_iff _).mpr ⟨chunk, before, rfl, recentBefore⟩)
    · exact .inr ⟨chunk, now, rfl⟩

theorem key_mem_seen_iff (remembers : Remembers listed a) : c.key ∈ a.seen ↔
    (∃ other ∈ listed, other.key = c.key) ∧ a.newest.satSub horizonLength ≤ c.fileTime := by
  rw [remembers.seen_iff]
  constructor
  · rintro ⟨other, was_listed, same, recent⟩
    exact ⟨⟨other, was_listed, same⟩, fileTime_eq_of_key_eq same ▸ recent⟩
  · rintro ⟨⟨other, was_listed, same⟩, recent⟩
    exact ⟨other, was_listed, same, (fileTime_eq_of_key_eq same).symm ▸ recent⟩

end Remembers

end Admission

namespace Discovery

variable {κ : Type} [Catalogue κ] {d d' : Discovery κ} {calls : List FetchCall}
  {listed : List Chunk}

theorem Fetches.remembers (fetches : d.Fetches calls d')
    (remembers : d.admission.Remembers listed) :
    d'.admission.Remembers (listed ++ calls.flatMap FetchCall.listed) :=
  fetches.keeps (fun _ _ period? chunks earlier => earlier.offerAll period? chunks) remembers

/-- **Duplicates.** Of the chunks that have been listed since the discovery was set up, those are
remembered that are not more than a week older than the newest one, and the time of the newest one
with them. So when the next answer comes, each of its chunks is offered behind those before it, and
dropped as listed again just if its key stands before it in the answer, or was listed earlier and is
not more than a week older than the newest chunk by then. Those that are admitted have different
keys. -/
theorem suppresses_duplicates (table : List κ) (fetches : (ofList table).Fetches calls d) :
    d.admission.Remembers (calls.flatMap FetchCall.listed) ∧
      ∀ (c : Criteria) (answer : Answer),
        ((d.absorb c answer).1.map Chunk.key).Nodup ∧
        ∀ before chunk after, answer.chunks = before ++ chunk :: after →
          let a := (Admission.offerEach c.ribPeriod? before d.admission).2
          (d.absorb c answer).1 = (Admission.offerEach c.ribPeriod? before d.admission).1 ++
            (Admission.offerEach c.ribPeriod? (chunk :: after) a).1 ∧
          (Admission.offer c.ribPeriod? a chunk = (false, a) ↔
            (∃ other ∈ before, other.key = chunk.key) ∨
            (∃ other ∈ calls.flatMap FetchCall.listed, other.key = chunk.key) ∧
              d.admission.newest.satSub horizonLength ≤ chunk.fileTime) := by
  have remembers : d.admission.Remembers (calls.flatMap FetchCall.listed) :=
    fetches.remembers .empty
  refine ⟨remembers, fun c answer => ⟨?_, fun before chunk after split => ⟨?_, ?_⟩⟩⟩
  · exact (Admission.nodup_offerEach c.ribPeriod? answer.chunks d.admission).1
  · change (Admission.offerEach c.ribPeriod? answer.chunks d.admission).1 = _
    rw [split, Admission.offerEach_append]
  · rw [Admission.offer_eq_iff, Admission.mem_seen_offerEach, remembers.key_mem_seen_iff, or_comm]

/-! ## Chunks a week apart -/

/-- Two chunks, one of them a second more than a week older than the other one. -/
def apartChunks : List Chunk :=
  [⟨"ris", "rrc00", .update, "old", 0, 300⟩, ⟨"ris", "rrc00", .update, "new", 604801, 300⟩]

/-- The catalogue lists the chunks twice, the second time the older one once more. -/
def apartCatalogue : Replay where
  name := "replay"
  description := ""
  settings := []
  script := [.chunks apartChunks none, .chunks (apartChunks ++ apartChunks) none]
  patience := 0
  starts := []

/-- The older chunk has been forgotten when it is listed for the second time, and has been seen in
the same answer when it is listed for the third time; the newer one is dropped. -/
theorem suppresses_duplicates_apart : ∃ (calls : List FetchCall) (d : Discovery Replay),
    (ofList [apartCatalogue]).Fetches calls d ∧
      calls.map FetchCall.found = [apartChunks, apartChunks.take 1] ∧
      d.admission.Remembers (calls.flatMap FetchCall.listed) ∧ d.admission.newest = 604801 := by
  have fetches : (ofList [apartCatalogue]).Fetches _ _ :=
    .between (retains_start _) (.call {} 1 (.call {} 1 (.nil _)))
  exact ⟨_, _, fetches, by decide +kernel, (suppresses_duplicates [apartCatalogue] fetches).1,
    by decide +kernel⟩

end Discovery

end RouteFeed
