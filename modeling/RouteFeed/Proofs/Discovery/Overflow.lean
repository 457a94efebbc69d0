import RouteFeed.Proofs.Backlog
import RouteFeed.Proofs.Discovery.Duplicates
import RouteFeed.Proofs.Discovery.Sampling

/-!
# Times at the ends of the range

A catalogue may hold any word as a time or as a span. The end of a chunk, the end of its cover and
the time before which chunks are forgotten are sums that stop at the ends of the range, so whatever
the words are, they are what they ought to be as far as words can say it. The end of the period after
a table is not. Where it lies beyond the range, a program that checks its sums stops, so two rows of a
catalogue are enough to end it. A program that does not check them goes on with a time long past, and
may let a table through that comes too early. This is the only sum that leaves the range, and the only
decision that goes wrong.

## Main definitions

* `Seconds.StandsFor` — an integer as a time, cut off at the ends of the range
* `Admission.dueVerdict` — what ought to become of a chunk
* `Admission.Overflows` — the sum that decides about a chunk leaves the range
* `Admission.Wraps` — it does, and the table is let through for that
* `Admission.KnowsTables` — what is remembered of tables has been listed
* `Admission.Meets` — what is remembered when a chunk is offered in the course of some answers

## Main results

* `Seconds.lt_add_period_iff` — what comes before the end of a period
* `Admission.verdict_of_wraps`, `Admission.verdict_eq_of_not_wraps` — one chunk
* `Admission.overflowed_afterOffers` — when a sum has left the range
* `Discovery.Fetches.hasStopped_eq_false_of_bounded` — no program stops where all periods fit
* `Discovery.overflows_in_sampling_only` — the sums of a discovery
-/

namespace RouteFeed

namespace Seconds

/-! ## Integers as times -/

/-- A time stands for an integer, which is cut off at the ends of the range. -/
def StandsFor (t : Seconds) (n : ℤ) : Prop := t.toInt = max least.toInt (min n greatest.toInt)

instance (t : Seconds) (n : ℤ) : Decidable (StandsFor t n) := Int.instDecidableEq _ _

variable {t last : Seconds} {period : UInt32}

theorem standsFor_satAdd (a b : Seconds) : (a.satAdd b).StandsFor (a.toInt + b.toInt) :=
  toInt_clamp _

theorem standsFor_satSub (a b : Seconds) : (a.satSub b).StandsFor (a.toInt - b.toInt) :=
  toInt_clamp _

theorem toInt_period (period : UInt32) : (Int64.ofNat period.toNat).toInt = period.toNat :=
  Int64.toInt_ofNat_of_lt (period.toNat_lt.trans (by decide))

/-- What comes before the end of a period that wraps around comes before the end that is cut off,
too. The other way round, nothing is missed but what comes after the end that has wrapped. -/
theorem lt_add_period_iff : t < last + Int64.ofNat period.toNat ↔
    t < last.satAdd (Int64.ofNat period.toNat) ∧
      ¬ (greatest.toInt < last.toInt + period.toNat ∧
        last.toInt + period.toNat - Int64.size ≤ t.toInt) := by
  have saturated := standsFor_satAdd last (Int64.ofNat period.toNat)
  rw [StandsFor, toInt_period] at saturated
  have lower : least.toInt ≤ last.toInt := last.minValue_le_toInt
  have upper : last.toInt ≤ greatest.toInt := last.toInt_le
  have small := period.toNat_lt
  have range : least.toInt = -9223372036854775808 ∧ greatest.toInt = 9223372036854775807 := by
    decide
  have size : (Int64.size : ℤ) = 18446744073709551616 := rfl
  rw [Int64.lt_iff_toInt_lt, Int64.lt_iff_toInt_lt, saturated]
  by_cases beyond : greatest.toInt < last.toInt + period.toNat
  · -- the end that is cut off is the greatest time, and the one that has wrapped lies before it
    rw [toInt_add_period_of_wraps beyond]
    omega
  · have bounded : last.toInt ≤ Int64.maxValue.toInt - period.toNat := by
      change last.toInt ≤ greatest.toInt - period.toNat
      omega
    rw [toInt_add_period bounded]
    omega

end Seconds

namespace Admission

variable {period? : Option UInt32} {a : Admission} {c : Chunk} {listed : List Chunk}

/-! ## What ought to become of a chunk -/

/-- A table comes before the end of the period after the last one of its collector, where that end is
cut off at the end of the range. -/
def IsUndue (period? : Option UInt32) (a : Admission) (c : Chunk) : Prop :=
  c.kind = .rib ∧ ∃ period ∈ period?, ∃ last ∈ a.lastRibOf c.collector,
    c.fileTime < last.satAdd (Int64.ofNat period.toNat)

instance : Decidable (IsUndue period? a c) := inferInstanceAs (Decidable (_ ∧ _))

/-- What ought to become of a chunk. -/
def dueVerdict (period? : Option UInt32) (a : Admission) (c : Chunk) : Verdict :=
  if c.key ∈ a.seen then .listedAgain
  else if a.IsUndue period? c then .sampledOut
  else .admitted

/-- The sum that decides about a chunk leaves the range: it is a table that has not been listed
before, and the end of the period after the last one of its collector lies beyond the range. -/
def Overflows (period? : Option UInt32) (a : Admission) (c : Chunk) : Prop :=
  c.key ∉ a.seen ∧ c.kind = .rib ∧ ∃ period ∈ period?, ∃ last ∈ a.lastRibOf c.collector,
    Seconds.greatest.toInt < last.toInt + period.toNat

/-- A table that has not been listed before comes before the end of the period after the last one, but
that end is beyond the range, and the table does not come before the time to which it wraps. -/
def Wraps (period? : Option UInt32) (a : Admission) (c : Chunk) : Prop :=
  c.key ∉ a.seen ∧ c.kind = .rib ∧ ∃ period ∈ period?, ∃ last ∈ a.lastRibOf c.collector,
    c.fileTime < Seconds.greatest ∧ Seconds.greatest.toInt < last.toInt + period.toNat ∧
      last.toInt + period.toNat - Int64.size ≤ c.fileTime.toInt

theorem verdict_eq_listedAgain_iff : a.verdict period? c = .listedAgain ↔ c.key ∈ a.seen := by
  unfold verdict
  split_ifs with again <;> simp [again]

theorem sampled_eq_false_iff {period : UInt32} : a.sampled period c = false ↔
    ∃ last ∈ a.lastRibOf c.collector, c.fileTime < last + Int64.ofNat period.toNat := by
  rw [sampled]
  cases a.lastRibOf c.collector <;> simp

/-- A table is dropped by sampling just if it comes before the sum of the time of the last one and
the period, as it is formed. -/
theorem verdict_eq_sampledOut_iff : a.verdict period? c = .sampledOut ↔
    c.key ∉ a.seen ∧ c.kind = .rib ∧ ∃ period ∈ period?, ∃ last ∈ a.lastRibOf c.collector,
      c.fileTime < last + Int64.ofNat period.toNat := by
  have again : a.verdict period? c = .listedAgain ↔ c.key ∈ a.seen := verdict_eq_listedAgain_iff
  rw [← again]
  cases period? with
  | none =>
    -- without a period nothing is dropped by sampling
    unfold verdict offer
    by_cases again : c.key ∈ a.seen <;> simp [again]
  | some period =>
    simp only [← sampled_eq_false_iff, Option.mem_some_iff, exists_eq_left']
    rcases offer_cases period a c with ⟨verdict, -⟩ | ⟨verdict, table, dropped, -⟩ |
      ⟨verdict, -, passed, -⟩ | ⟨verdict, update, -⟩
    · simp [verdict]
    · simp [verdict, table, dropped]
    · simp [verdict, passed]
    · simp [verdict, update]

theorem Wraps.overflows (wraps : a.Wraps period? c) : a.Overflows period? c := by
  obtain ⟨new, table, period, isPeriod, last, isLast, -, beyond, -⟩ := wraps
  exact ⟨new, table, period, isPeriod, last, isLast, beyond⟩

theorem Wraps.isUndue (wraps : a.Wraps period? c) : a.IsUndue period? c := by
  obtain ⟨-, table, period, isPeriod, last, isLast, early, beyond, -⟩ := wraps
  refine ⟨table, period, isPeriod, last, isLast, ?_⟩
  have saturated := Seconds.standsFor_satAdd last (Int64.ofNat period.toNat)
  rw [Seconds.StandsFor, Seconds.toInt_period] at saturated
  rw [Int64.lt_iff_toInt_lt] at early ⊢
  omega

/-- Sampling drops what it ought to drop, if no sum wraps around. -/
theorem verdict_eq_sampledOut_iff_isUndue : a.verdict period? c = .sampledOut ↔
    c.key ∉ a.seen ∧ a.IsUndue period? c ∧ ¬ a.Wraps period? c := by
  rw [verdict_eq_sampledOut_iff]
  constructor
  · rintro ⟨new, table, period, isPeriod, last, isLast, early⟩
    obtain ⟨due, fits⟩ := Seconds.lt_add_period_iff.mp early
    refine ⟨new, ⟨table, period, isPeriod, last, isLast, due⟩, ?_⟩
    rintro ⟨-, -, period', isPeriod', last', isLast', -, beyond, late⟩
    -- there is one period, and one last table
    obtain rfl := Option.mem_unique isPeriod isPeriod'
    obtain rfl := Option.mem_unique isLast isLast'
    exact fits ⟨beyond, late⟩
  · rintro ⟨new, ⟨table, period, isPeriod, last, isLast, due⟩, fits⟩
    refine ⟨new, table, period, isPeriod, last, isLast, ?_⟩
    refine Seconds.lt_add_period_iff.mpr ⟨due, fun wraps => fits ?_⟩
    have early := Int64.lt_of_lt_of_le due (Int64.le_maxValue _)
    exact ⟨new, table, period, isPeriod, last, isLast, early, wraps⟩

/-- A table is let through that ought to be dropped, if the period wraps around. -/
theorem verdict_of_wraps (wraps : a.Wraps period? c) :
    a.verdict period? c = .admitted ∧ a.dueVerdict period? c = .sampledOut := by
  have new := wraps.1
  constructor
  · cases verdict : a.verdict period? c with
    | listedAgain => exact absurd (verdict_eq_listedAgain_iff.mp verdict) new
    | sampledOut => exact absurd wraps (verdict_eq_sampledOut_iff_isUndue.mp verdict).2.2
    | admitted => rfl
  · rw [dueVerdict, if_neg new, if_pos wraps.isUndue]

/-- Otherwise there becomes of a chunk what ought to. -/
theorem verdict_eq_of_not_wraps (fits : ¬ a.Wraps period? c) :
    a.verdict period? c = a.dueVerdict period? c := by
  unfold dueVerdict
  split_ifs with again undue
  · exact verdict_eq_listedAgain_iff.mpr again
  · exact verdict_eq_sampledOut_iff_isUndue.mpr ⟨again, undue, fits⟩
  · cases verdict : a.verdict period? c with
    | listedAgain => exact absurd (verdict_eq_listedAgain_iff.mp verdict) again
    | sampledOut => exact absurd (verdict_eq_sampledOut_iff_isUndue.mp verdict).2.1 undue
    | admitted => rfl

/-! ## Where the times come from -/

/-- The time that is remembered of a collector is that of one of its tables. -/
def KnowsTables (listed : List Chunk) (a : Admission) : Prop :=
  ∀ collector, ∀ last ∈ a.lastRibOf collector, ∃ table ∈ listed,
    table.isTableOf collector ∧ table.fileTime = last

/-- A chunk changes what is remembered of a collector only if it is one of its tables. -/
theorem lastRibOf_offer (period? : Option UInt32) (a : Admission) (c : Chunk) (collector : String) :
    (offer period? a c).2.lastRibOf collector = a.lastRibOf collector ∨
      c.isTableOf collector ∧ (offer period? a c).2.lastRibOf collector = some c.fileTime := by
  cases period? with
  | none =>
    refine .inl ?_
    unfold offer
    split_ifs with again
    · rfl
    · cases c.kind <;> rfl
  | some period =>
    rcases offer_cases period a c with ⟨-, offered⟩ | ⟨-, -, -, offered⟩ |
      ⟨-, table, -, offered⟩ | ⟨-, -, offered⟩
    · exact .inl (by rw [offered])
    · exact .inl (by rw [offered]; rfl)
    · rw [offered, lastRibOf_noteRib]
      by_cases own : c.collector = collector
      · exact .inr ⟨Chunk.isTableOf_iff.mpr ⟨table, own⟩, if_pos own⟩
      · exact .inl (if_neg own)
    · exact .inl (by rw [offered]; rfl)

namespace KnowsTables

theorem mono {listed' : List Chunk} (knows : KnowsTables listed a) (more : listed ⊆ listed') :
    KnowsTables listed' a := by
  intro collector last isLast
  obtain ⟨table, here, is_table⟩ := knows collector last isLast
  exact ⟨table, more here, is_table⟩

theorem empty : KnowsTables [] {} := fun _ _ nothing => nomatch nothing

theorem offer (knows : KnowsTables listed a) (period? : Option UInt32) (c : Chunk) :
    KnowsTables (listed ++ [c]) (Admission.offer period? a c).2 := by
  intro collector last isLast
  rcases lastRibOf_offer period? a c collector with same | ⟨table, own⟩
  · rw [same] at isLast
    obtain ⟨table, here, is_table⟩ := knows collector last isLast
    exact ⟨table, List.mem_append_left _ here, is_table⟩
  · rw [own] at isLast
    exact ⟨c, by simp, table, Option.some.inj isLast⟩

theorem offerEach (knows : KnowsTables listed a) (period? : Option UInt32) (chunks : List Chunk) :
    KnowsTables (listed ++ chunks) (Admission.offerEach period? chunks a).2 :=
  offerEach_keeps (fun _ _ c earlier => earlier.offer period? c) chunks knows

/-- Behind an answer, chunks are forgotten, and tables are not. -/
theorem offerAll (knows : KnowsTables listed a) (period? : Option UInt32) (chunks : List Chunk) :
    KnowsTables (listed ++ chunks) (Admission.offerAll period? chunks a).2 :=
  knows.offerEach period? chunks

end KnowsTables

/-- A chunk is forgotten just if it is too old, also where the time before which chunks are forgotten
is cut off. -/
theorem mem_seen_forget_iff {key : ChunkKey} : key ∈ a.forget.seen ↔
    key ∈ a.seen ∧ a.newest.toInt - horizonLength.toInt ≤ key.fileTime.toInt := by
  have saturated := Seconds.standsFor_satSub a.newest horizonLength
  have lower := key.fileTime.minValue_le_toInt
  have upper := a.newest.toInt_le
  have week : horizonLength.toInt = 604800 := by decide
  change a.horizon.toInt = max Int64.minValue.toInt (min _ Int64.maxValue.toInt) at saturated
  rw [forget, List.mem_filter, decide_eq_true_iff, Int64.le_iff_toInt_le]
  -- where the difference is cut off, no time is before it
  exact and_congr_right fun _ => by omega

/-! ## Sums that leave the range -/

theorem overflows_iff {period : UInt32} : a.overflows period c ↔
    ∃ last ∈ a.lastRibOf c.collector, Seconds.greatest.toInt < last.toInt + period.toNat := by
  rw [overflows]
  cases a.lastRibOf c.collector <;> simp

/-- A sum is formed for one chunk only if it decides about it. -/
theorem overflowed_offer (period? : Option UInt32) (a : Admission) (c : Chunk) :
    (offer period? a c).2.overflowed ↔ a.overflowed ∨ a.Overflows period? c := by
  unfold offer Overflows
  by_cases again : c.key ∈ a.seen
  · simp [again]
  · -- noting the chunk does not change what is known of tables
    have same : ∀ period, (a.noteChunk c).overflows period c = a.overflows period c := fun _ => rfl
    have noted : (a.noteChunk c).overflowed = a.overflowed := rfl
    cases kind : c.kind with
    | update => simp [again, noted]
    | rib =>
      cases period? with
      | none => simp [again, noted]
      | some period =>
        have sums : ((a.noteChunk c).noteSum period c).overflowed ↔ a.overflowed ∨
            ∃ last ∈ a.lastRibOf c.collector,
              Seconds.greatest.toInt < last.toInt + period.toNat := by
          rw [noteSum, same, noted, ← overflows_iff, Bool.or_eq_true]
        simp only [again, if_false, not_false_eq_true, true_and, Option.mem_some_iff,
          exists_eq_left', ← sums]
        split_ifs <;> rfl

theorem overflowed_offerEach {chunks : List Chunk} : (offerEach period? chunks a).2.overflowed ↔
    a.overflowed ∨ ∃ before c after, chunks = before ++ c :: after ∧
      (offerEach period? before a).2.Overflows period? c := by
  -- by induction on the chunks: the sum belongs to the first of them or to a later one
  induction chunks generalizing a with
  | nil => simp [offerEach]
  | cons c chunks ih =>
    rw [offerEach, ih, overflowed_offer, or_assoc]
    refine or_congr_right ?_
    constructor
    · rintro (here | ⟨before, c', after, rfl, later⟩)
      · exact ⟨[], c, chunks, rfl, here⟩
      · exact ⟨c :: before, c', after, rfl, later⟩
    · rintro ⟨before, c', after, split, overflows⟩
      cases before with
      | nil =>
        obtain ⟨rfl, rfl⟩ := List.cons_eq_cons.mp split
        exact .inl overflows
      | cons _ before =>
        obtain ⟨rfl, rfl⟩ := List.cons_eq_cons.mp split
        exact .inr ⟨before, c', after, rfl, overflows⟩

/-- The chunks of an answer, and the period with which its tables are sampled. -/
structure Offer where
  period? : Option UInt32
  chunks : List Chunk

/-- What is remembered after some answers. -/
def afterOffers (offers : List Offer) (a : Admission) : Admission :=
  offers.foldl (fun a offer => (a.offerAll offer.period? offer.chunks).2) a

/-- In the course of some answers a chunk is offered, with a period of sampling, when this is
remembered. -/
inductive Meets : List Offer → Admission → Option UInt32 → Admission → Chunk → Prop where
  /-- The chunk is one of the first answer, and the chunks before it have been offered. -/
  | here {period? : Option UInt32} {before after : List Chunk} {others : List Offer}
      {a : Admission} {c : Chunk} :
      Meets (⟨period?, before ++ c :: after⟩ :: others) a period?
        (offerEach period? before a).2 c
  /-- The chunk is one of a later answer. -/
  | later {offer : Offer} {others : List Offer} {a a' : Admission} {period? : Option UInt32}
      {c : Chunk} (meets : Meets others (a.offerAll offer.period? offer.chunks).2 period? a' c) :
      Meets (offer :: others) a period? a' c

section Offers

variable {offers : List Offer} {a' : Admission}

/-- A sum has left the range just if one does at a chunk that is offered. -/
theorem overflowed_afterOffers : (a.afterOffers offers).overflowed ↔
    a.overflowed ∨ ∃ period? a' c, Meets offers a period? a' c ∧ a'.Overflows period? c := by
  induction offers generalizing a with
  | nil =>
    constructor
    · exact .inl
    · rintro (earlier | ⟨_, _, _, ⟨⟩, _⟩)
      exact earlier
  | cons offer offers ih =>
    -- forgetting chunks behind an answer does not change whether a sum has left the range
    have first : (a.offerAll offer.period? offer.chunks).2.overflowed ↔ _ := overflowed_offerEach
    rw [afterOffers, List.foldl_cons, ← afterOffers, ih, first, or_assoc]
    refine or_congr_right ?_
    constructor
    · rintro (⟨before, c, after, split, overflows⟩ | ⟨period?, a', c, meets, overflows⟩)
      · obtain ⟨period?, chunks⟩ := offer
        obtain rfl : chunks = before ++ c :: after := split
        exact ⟨period?, _, c, .here, overflows⟩
      · exact ⟨period?, a', c, .later meets, overflows⟩
    · rintro ⟨period?, a', c, meets, overflows⟩
      cases meets with
      | here => exact .inl ⟨_, c, _, rfl, overflows⟩
      | later meets => exact .inr ⟨period?, a', c, meets, overflows⟩

theorem Meets.exists_period (meets : Meets offers a period? a' c) :
    ∃ offer ∈ offers, offer.period? = period? := by
  induction meets with
  | here => exact ⟨_, List.mem_cons_self, rfl⟩
  | later _ ih =>
    obtain ⟨offer, here, same⟩ := ih
    exact ⟨offer, List.mem_cons_of_mem _ here, same⟩

/-- Whenever a chunk is offered, the times that are remembered are those of tables that have been
listed. -/
theorem Meets.knowsTables (meets : Meets offers a period? a' c) (knows : KnowsTables listed a) :
    KnowsTables (listed ++ offers.flatMap Offer.chunks) a' := by
  induction meets generalizing listed with
  | @here period? before =>
    refine (knows.offerEach period? before).mono fun chunk here => ?_
    rcases List.mem_append.mp here with earlier | now
    · exact List.mem_append_left _ earlier
    · exact List.mem_append_right _ (by simp [now])
  | @later offer _ _ _ _ _ _ ih =>
    have others := ih (knows.offerAll offer.period? offer.chunks)
    rwa [List.append_assoc] at others

theorem admission_absorbAll (g : Gathering) (period? : Option UInt32) (answers : List Answer) :
    (g.absorbAll period? answers).admission =
      g.admission.afterOffers (answers.map fun answer => ⟨period?, answer.chunks⟩) := by
  induction answers generalizing g with
  | nil => rfl
  | cons answer answers ih => exact ih (g.absorb period? answer)

end Offers

end Admission

/-- What is offered in a call. -/
def FetchCall.offers (call : FetchCall) : List Admission.Offer :=
  call.answers.map fun answer => ⟨call.criteria.ribPeriod?, answer.chunks⟩

theorem FetchCall.flatMap_offers (calls : List FetchCall) :
    (calls.flatMap FetchCall.offers).flatMap Admission.Offer.chunks =
      calls.flatMap FetchCall.listed := by
  simp only [List.flatMap_assoc, FetchCall.offers, List.flatMap_map]
  rfl

namespace Discovery

variable {κ : Type} [Catalogue κ] {d d' : Discovery κ} {calls : List FetchCall}

/-- What is remembered after some calls is what the answers in them lead to. -/
theorem Fetches.admission_eq (fetches : d.Fetches calls d') :
    d'.admission = d.admission.afterOffers (calls.flatMap FetchCall.offers) := by
  induction fetches with
  | nil => rfl
  | @call d d' calls c rounds _ ih =>
    have first := congrArg Gathering.admission ((d.listens_fetch c rounds).gathering [])
    rw [Admission.admission_absorbAll] at first
    change (d.fetch c rounds).2.admission =
      d.admission.afterOffers (d.call c rounds).offers at first
    rw [ih, first, List.flatMap_cons, Admission.afterOffers, Admission.afterOffers,
      Admission.afterOffers, List.foldl_append]
  | between retains _ ih => rw [ih, retains.admission]

theorem Fetches.concat (fetches : d.Fetches calls d') (c : Criteria) (rounds : ℕ) :
    d.Fetches (calls ++ [d'.call c rounds]) (d'.fetch c rounds).2 := by
  induction fetches with
  | nil d => exact .call c rounds (.nil _)
  | call c' rounds' _ ih => exact .call c' rounds' ih
  | between retains _ ih => exact .between retains ih

/-- A program has stopped in the course of some calls just if it checks its sums and one of them has
left the range. -/
theorem Fetches.hasStopped_iff {table : List κ} (fetches : (ofList table).Fetches calls d)
    (build : Build) : d.hasStopped build ↔ build = .checked ∧
      ∃ period? a chunk, Admission.Meets (calls.flatMap FetchCall.offers) {} period? a chunk ∧
        a.Overflows period? chunk := by
  rw [hasStopped, decide_eq_true_iff, fetches.admission_eq, Admission.overflowed_afterOffers]
  have fresh : (ofList table).admission = {} := rfl
  simp only [fresh, Bool.false_eq_true, false_or]

/-- No program stops where each period fits behind each time that has been listed. -/
theorem Fetches.hasStopped_eq_false_of_bounded {table : List κ}
    (fetches : (ofList table).Fetches calls d)
    (bounded : ∀ chunk ∈ calls.flatMap FetchCall.listed, ∀ call ∈ calls,
      ∀ period ∈ call.criteria.ribPeriod?,
        chunk.fileTime.toInt + period.toNat ≤ Seconds.greatest.toInt) (build : Build) :
    d.hasStopped build = false := by
  rw [← Bool.not_eq_true, fetches.hasStopped_iff]
  rintro ⟨-, period?, a, chunk, meets, -, -, period, isPeriod, last, isLast, beyond⟩
  have knows := meets.knowsTables .empty
  rw [FetchCall.flatMap_offers, List.nil_append] at knows
  -- the sum would be that of a time that was listed and a period that was asked for
  obtain ⟨table, here, -, rfl⟩ := knows chunk.collector last isLast
  obtain ⟨offer, offered, rfl⟩ := meets.exists_period
  obtain ⟨call, made, answered⟩ := List.mem_flatMap.mp offered
  obtain ⟨answer, -, rfl⟩ := List.mem_map.mp answered
  exact absurd (bounded table here call made period isPeriod) (not_le_of_gt beyond)

/-- **Ends of the range.** Whatever times and spans a catalogue lists, the end of each chunk and the
end of its cover are the sums of the integers, cut off at the ends of the range, and chunks are
forgotten just if they are more than a week older than the newest one. The end of a period is neither
cut off nor refused. After any calls, the next call stops a program that checks its sums just if the
end of the period after some table that was listed before lies beyond the range when another table of
its collector is offered, in this call or an earlier one. A program that does not check them goes on,
and there becomes of each chunk what ought to, unless the end has wrapped to a time that the table
does not come before: then the table is let through, and ought to be dropped. -/
theorem overflows_in_sampling_only (table : List κ) (fetches : (ofList table).Fetches calls d) :
    (∀ chunk : Chunk,
      chunk.endTime.StandsFor (chunk.fileTime.toInt + chunk.timeSpan.toInt) ∧
      (Backlog.coverEnd chunk).StandsFor (chunk.fileTime.toInt + max chunk.timeSpan.toInt 1)) ∧
    (∀ (c : Criteria) (answer : Answer) key,
      key ∈ (d.absorb c answer).2.admission.seen ↔
        let a := (Admission.offerEach c.ribPeriod? answer.chunks d.admission).2
        key ∈ a.seen ∧ a.newest.toInt - horizonLength.toInt ≤ key.fileTime.toInt) ∧
    (∀ c rounds, d.fetchIn .checked c rounds = none ↔ ∃ period? a chunk,
      Admission.Meets ((calls ++ [d.call c rounds]).flatMap FetchCall.offers) {} period? a chunk ∧
        a.Overflows period? chunk) ∧
    (∀ c rounds, d.fetchIn .unchecked c rounds = some (d.fetch c rounds)) ∧
    ∀ period? a chunk, Admission.Meets (calls.flatMap FetchCall.offers) {} period? a chunk →
      (∀ last ∈ a.lastRibOf chunk.collector,
        ∃ table ∈ calls.flatMap FetchCall.listed,
          table.isTableOf chunk.collector ∧ table.fileTime = last) ∧
      (a.Wraps period? chunk → a.Overflows period? chunk ∧
        a.verdict period? chunk = .admitted ∧ a.dueVerdict period? chunk = .sampledOut) ∧
      (¬ a.Wraps period? chunk → a.verdict period? chunk = a.dueVerdict period? chunk) := by
  refine ⟨fun chunk => ⟨Seconds.standsFor_satAdd _ _, ?_⟩,
    fun c answer key => Admission.mem_seen_forget_iff, fun c rounds => ?_, fun c rounds => ?_,
    fun period? a chunk meets => ⟨?_, fun wraps => ?_, Admission.verdict_eq_of_not_wraps⟩⟩
  · have cover := Seconds.standsFor_satAdd chunk.fileTime (chunk.timeSpan.later 1)
    rw [Seconds.toInt_later] at cover
    exact cover
  · have stopped := (fetches.concat c rounds).hasStopped_iff .checked
    rw [fetchIn, ite_eq_left_iff, stopped]
    simp
  · simp [fetchIn, hasStopped]
  · have knows := meets.knowsTables .empty
    rw [FetchCall.flatMap_offers, List.nil_append] at knows
    exact knows chunk.collector
  · exact ⟨wraps.overflows, Admission.verdict_of_wraps wraps⟩

/-! ## Two tables in the last seconds of the range -/

/-- A table some seconds before the range ends. -/
def firstTable : Chunk := ⟨"ris", "rrc00", .rib, "first", 9223372036854775802, 0⟩

/-- A table of the same collector, one second later. -/
def secondTable : Chunk := ⟨"ris", "rrc00", .rib, "second", 9223372036854775803, 0⟩

/-- A catalogue that lists tables. -/
def catalogueOf (answers : List (List Chunk)) : Replay where
  name := "replay"
  description := ""
  settings := []
  script := answers.map fun chunks => .chunks chunks none
  patience := 0
  starts := []

/-- The first call lists the first table, and the second one, which lists the other table less than
the period after it, stops a program that checks its sums. -/
theorem overflows_in_sampling_only_second : ∃ (calls : List FetchCall) (d : Discovery Replay),
    (ofList [catalogueOf [[firstTable], [secondTable]]]).Fetches calls d ∧
      calls.flatMap FetchCall.found = [firstTable] ∧
      d.fetchIn .checked { ribPeriod? := some 10 } 1 = none ∧
      ((d.fetchIn .unchecked { ribPeriod? := some 10 } 1).bind Prod.fst).map foundIn =
        some [secondTable] := by
  have fetches : (ofList [catalogueOf [[firstTable], [secondTable]]]).Fetches _ _ :=
    .between (retains_start _) (.call { ribPeriod? := some 10 } 1 (.nil _))
  obtain ⟨-, -, stops, -⟩ := overflows_in_sampling_only _ fetches
  have overflows : (({} : Admission).afterOffers [⟨some 10, [firstTable]⟩]).Overflows (some 10)
      secondTable :=
    ⟨by decide +kernel, rfl, 10, rfl, 9223372036854775802, by decide +kernel, by decide⟩
  have meets : Admission.Meets [⟨some 10, [firstTable]⟩, ⟨some 10, [secondTable]⟩] {} (some 10)
      (({} : Admission).afterOffers [⟨some 10, [firstTable]⟩]) secondTable :=
    .later (@Admission.Meets.here (some 10) [] [] [] _ secondTable)
  exact ⟨_, _, fetches, by decide +kernel, (stops _ _).mpr ⟨_, _, _, meets, overflows⟩,
    by decide +kernel⟩

/-- One answer with both tables stops a program that checks its sums. Another program finds both,
though the second table comes one second after the first and the period is ten seconds: the sum of
the first time and the period is neither in the range nor cut off. -/
theorem not_saturates_of_second :
    ((ofList [catalogueOf [[firstTable, secondTable]]]).start.2.fetchIn .checked
        { ribPeriod? := some 10 } 1).isNone ∧
      (((ofList [catalogueOf [[firstTable, secondTable]]]).start.2.fetchIn .unchecked
        { ribPeriod? := some 10 } 1).bind Prod.fst).map foundIn = some [firstTable, secondTable] ∧
      secondTable.IsEarly 10 (some firstTable) ∧
      secondTable.fileTime < firstTable.fileTime.satAdd 10 ∧
      ¬ (firstTable.fileTime + 10).StandsFor (firstTable.fileTime.toInt + 10) := by
  refine ⟨?_, ?_, ?_, ?_, ?_⟩ <;> decide +kernel

end Discovery

end RouteFeed
