import RouteFeed.Proofs.Discovery.Transparency
import RouteFeed.Proofs.Seconds

/-!
# Sampling of tables

Of each collector the time of the last table is kept that was admitted. A table that has not been
listed before is dropped just if it comes less than a period after that time, or even before it;
then the time stays as it is. So it never goes back, and the tables of a collector that are admitted
are all at least a period apart, however many answers lie between them. Updates are never dropped by
sampling, and what one collector lists does not matter for the others.

A *history* tells of each chunk that was offered what became of it. Chunks are judged one after
another, so the history before a chunk is all that the decision depends on.

## Main definitions

* `Chunk.IsEarly`, `Chunk.spaced` — the rule for the tables of one collector
* `Admission.Verdict`, `Admission.history` — what becomes of the chunks of some answers
* `Admission.Recalls` — what is remembered of the tables that were admitted
* `Admission.IsSampled` — a history keeps to the rule

## Main results

* `Chunk.pairwise_spaced` — the rule keeps tables apart
* `Admission.Recalls.isSampled_history` — histories keep to the rule
* `Admission.IsSampled.spaced_eq` — what is admitted of one collector
* `Discovery.samples_tables` — which tables are dropped by sampling
-/

namespace RouteFeed

/-! ## The rule -/

namespace Chunk

variable {period : UInt32} {collector : String} {c : Chunk}

/-- A chunk is a table of a collector. -/
def isTableOf (collector : String) (c : Chunk) : Bool := c.kind = .rib ∧ c.collector = collector

theorem isTableOf_iff : c.isTableOf collector ↔ c.kind = .rib ∧ c.collector = collector :=
  decide_eq_true_iff

/-- A chunk comes less than a period after the last one, if there is one. -/
def IsEarly (period : UInt32) (last? : Option Chunk) (c : Chunk) : Prop :=
  ∃ last ∈ last?, c.fileTime.toInt < last.fileTime.toInt + period.toNat

instance (period : UInt32) (last? : Option Chunk) : DecidablePred (IsEarly period last?) :=
  fun _ => Option.decidableExistsMem last?

/-- A chunk comes at least a period after another one. -/
def IsLate (period : UInt32) (last c : Chunk) : Prop :=
  last.fileTime.toInt + period.toNat ≤ c.fileTime.toInt

instance (period : UInt32) : DecidableRel (IsLate period) := fun _ _ => Int.decLe _ _

/-- The chunks that are left when those are dropped that come early after the last one that was
not. -/
def spaced (period : UInt32) : Option Chunk → List Chunk → List Chunk
  | _, [] => []
  | last?, c :: rest =>
    if c.IsEarly period last? then spaced period last? rest else c :: spaced period (some c) rest

theorem not_isEarly_iff {last? : Option Chunk} :
    ¬ c.IsEarly period last? ↔ ∀ last ∈ last?, IsLate period last c := by
  simp [IsEarly, IsLate]

theorem IsLate.trans {c c' c'' : Chunk} (late : IsLate period c c') (late' : IsLate period c' c'') :
    IsLate period c c'' := by
  unfold IsLate at late late' ⊢
  omega

/-- The chunks that are left are at least a period apart, also from the last one before. -/
theorem pairwise_spaced (period : UInt32) (last? : Option Chunk) (chunks : List Chunk) :
    (spaced period last? chunks).Pairwise (IsLate period) ∧
      ∀ last ∈ last?, ∀ c ∈ spaced period last? chunks, IsLate period last c := by
  fun_induction spaced period last? chunks with
  | case1 => simp
  | case2 last? c rest early ih => exact ih
  | case3 last? c rest notEarly ih =>
    obtain ⟨apart, behind⟩ := ih
    have behind := behind c rfl
    rw [not_isEarly_iff] at notEarly
    refine ⟨List.pairwise_cons.mpr ⟨behind, apart⟩, fun last isLast => ?_⟩
    have late := notEarly last isLast
    exact List.forall_mem_cons.mpr ⟨late, fun c' later => late.trans (behind c' later)⟩

end Chunk

namespace Admission

/-! ## Verdicts -/

/-- What becomes of a chunk that is offered. -/
inductive Verdict where
  /-- It is dropped, since it was listed before. -/
  | listedAgain
  /-- It is dropped by sampling. -/
  | sampledOut
  /-- It is admitted. -/
  | admitted
deriving DecidableEq

/-- What becomes of a chunk. -/
def verdict (period? : Option UInt32) (a : Admission) (c : Chunk) : Verdict :=
  if c.key ∈ a.seen then .listedAgain
  else if (offer period? a c).1 then .admitted
  else .sampledOut

/-- What became of some chunks. -/
abbrev History := List (Chunk × Verdict)

namespace History

/-- The chunks that were admitted. -/
def admitted (past : History) : List Chunk :=
  (past.filter fun entry => entry.2 = .admitted).map Prod.fst

/-- The chunks that had not been listed before. -/
def unlisted (past : History) : List Chunk :=
  (past.filter fun entry => entry.2 ≠ .listedAgain).map Prod.fst

/-- The last table of a collector that was admitted. -/
def lastTable? (collector : String) (past : History) : Option Chunk :=
  (past.admitted.filter (Chunk.isTableOf collector)).getLast?

end History

/-- What becomes of the chunks of one answer. -/
def judgeEach (period? : Option UInt32) : List Chunk → Admission → History
  | [], _ => []
  | c :: rest, a => (c, a.verdict period? c) :: judgeEach period? rest (offer period? a c).2

/-- What becomes of the chunks of some answers. -/
def history (period? : Option UInt32) : List Answer → Admission → History
  | [], _ => []
  | answer :: rest, a =>
    judgeEach period? answer.chunks a ++ history period? rest (offerAll period? answer.chunks a).2

variable {period? : Option UInt32} {period : UInt32} {a : Admission} {c : Chunk}
  {chunks : List Chunk} {past history₁ history₂ : History} {v : Verdict} {collector : String}

/-- A chunk is admitted just if this is what becomes of it. -/
theorem verdict_eq_admitted_iff : a.verdict period? c = .admitted ↔ (offer period? a c).1 := by
  unfold verdict
  split_ifs with again isAdmitted
  · simp [offer, again]
  · simp [isAdmitted]
  · simp [isAdmitted]

theorem map_fst_judgeEach (period? : Option UInt32) (chunks : List Chunk) (a : Admission) :
    (judgeEach period? chunks a).map Prod.fst = chunks := by
  induction chunks generalizing a with
  | nil => rfl
  | cons c chunks ih => rw [judgeEach, List.map_cons, ih]

theorem map_fst_history (period? : Option UInt32) (answers : List Answer) (a : Admission) :
    (history period? answers a).map Prod.fst = answers.flatMap Answer.chunks := by
  induction answers generalizing a with
  | nil => rfl
  | cons answer answers ih =>
    rw [history, List.map_append, map_fst_judgeEach, ih, List.flatMap_cons]

namespace History

@[simp] theorem admitted_nil : admitted [] = [] := rfl

theorem admitted_cons (c : Chunk) (v : Verdict) (past : History) :
    admitted ((c, v) :: past) = if v = .admitted then c :: past.admitted else past.admitted := by
  unfold admitted
  rw [List.filter_cons]
  split_ifs <;> simp_all

theorem admitted_append (past past' : History) :
    admitted (past ++ past') = past.admitted ++ past'.admitted := by
  rw [admitted, List.filter_append, List.map_append]
  rfl

theorem unlisted_cons (c : Chunk) (v : Verdict) (past : History) :
    unlisted ((c, v) :: past) =
      if v = .listedAgain then past.unlisted else c :: past.unlisted := by
  unfold unlisted
  rw [List.filter_cons]
  split_ifs <;> simp_all

/-- The last table is another one when one more has been admitted. -/
theorem lastTable?_concat (collector : String) (past : History) (c : Chunk) (v : Verdict) :
    lastTable? collector (past ++ [(c, v)]) =
      if v = .admitted ∧ c.isTableOf collector then some c else past.lastTable? collector := by
  rw [lastTable?, admitted_append, admitted_cons, List.filter_append]
  by_cases isAdmitted : v = .admitted
  · by_cases table : c.isTableOf collector
    · simp [isAdmitted, table]
    · simp [isAdmitted, table, lastTable?]
  · simp [isAdmitted, lastTable?]

end History

theorem admitted_judgeEach (period? : Option UInt32) (chunks : List Chunk) (a : Admission) :
    (judgeEach period? chunks a).admitted = (offerEach period? chunks a).1 := by
  induction chunks generalizing a with
  | nil => rfl
  | cons c chunks ih =>
    rw [judgeEach, offerEach, History.admitted_cons, ih]
    simp only [verdict_eq_admitted_iff]

/-- What is gathered from some answers is what is admitted of their chunks. -/
theorem admitted_history (period? : Option UInt32) (answers : List Answer) (g : Gathering) :
    (g.absorbAll period? answers).backlog =
      g.backlog ++ (history period? answers g.admission).admitted := by
  induction answers generalizing g with
  | nil => simp [history]
  | cons answer answers ih =>
    refine (ih (g.absorb period? answer)).trans ?_
    rw [history, History.admitted_append, admitted_judgeEach, ← List.append_assoc]
    rfl

/-! ## What is remembered -/

/-- What is remembered of the tables that were admitted: for each collector the time of the last
one. -/
def Recalls (past : History) (a : Admission) : Prop :=
  ∀ collector, a.lastRibOf collector = (past.lastTable? collector).map Chunk.fileTime

theorem Recalls.empty : Recalls [] {} := fun _ => rfl

theorem lastRibOf_noteRib (a : Admission) (collector other : String) (time : Seconds) :
    (a.noteRib collector time).lastRibOf other =
      if collector = other then some time else a.lastRibOf other := by
  unfold lastRibOf noteRib
  dsimp only
  split_ifs with same
  · simp [same]
  · rw [List.find?_cons_of_neg (by simpa using same), List.find?_filter]
    -- the entry of the one collector is not the one that is looked for
    congr 2
    funext entry
    by_cases here : entry.1 = other
    · simp [here, Ne.symm same]
    · simp [here]

/-- Everything that can become of a chunk, and what is remembered then. -/
theorem offer_cases (period : UInt32) (a : Admission) (c : Chunk) :
    (a.verdict (some period) c = .listedAgain ∧ (offer (some period) a c).2 = a) ∨
    (a.verdict (some period) c = .sampledOut ∧ c.kind = .rib ∧ a.sampled period c = false ∧
      (offer (some period) a c).2 = (a.noteChunk c).noteSum period c) ∨
    (a.verdict (some period) c = .admitted ∧ c.kind = .rib ∧ a.sampled period c = true ∧
      (offer (some period) a c).2 =
        ((a.noteChunk c).noteSum period c).noteRib c.collector c.fileTime) ∨
    (a.verdict (some period) c = .admitted ∧ c.kind = .update ∧
      (offer (some period) a c).2 = a.noteChunk c) := by
  unfold verdict offer
  by_cases again : c.key ∈ a.seen
  · simp [again]
  · -- noting the chunk and the sum does not change what is known of tables
    have same : ((a.noteChunk c).noteSum period c).sampled period c = a.sampled period c := rfl
    cases kind : c.kind with
    | update => simp [again]
    | rib => cases sampled : a.sampled period c <;> simp [again, same, sampled]

theorem Recalls.offer (recalls : Recalls past a) (period : UInt32) (c : Chunk) :
    Recalls (past ++ [(c, a.verdict (some period) c)]) (Admission.offer (some period) a c).2 := by
  intro collector
  rw [History.lastTable?_concat]
  -- only a table that is admitted is noted, and only for its own collector
  rcases offer_cases period a c with ⟨verdict, offered⟩ | ⟨verdict, -, -, offered⟩ |
    ⟨verdict, table, -, offered⟩ | ⟨verdict, update, offered⟩
  · rw [verdict, offered, if_neg (by simp)]
    exact recalls collector
  · rw [verdict, offered, if_neg (by simp)]
    exact recalls collector
  · rw [verdict, offered, lastRibOf_noteRib]
    by_cases own : c.collector = collector
    · rw [if_pos own, if_pos ⟨rfl, Chunk.isTableOf_iff.mpr ⟨table, own⟩⟩]
      rfl
    · rw [if_neg own, if_neg fun here => own (Chunk.isTableOf_iff.mp here.2).2]
      exact recalls collector
  · rw [verdict, offered, if_neg (by simp [Chunk.isTableOf, update])]
    exact recalls collector

theorem Recalls.judgeEach (recalls : Recalls past a) (period : UInt32) (chunks : List Chunk) :
    Recalls (past ++ Admission.judgeEach (some period) chunks a)
      (offerEach (some period) chunks a).2 := by
  induction chunks generalizing past a with
  | nil => rwa [Admission.judgeEach, List.append_nil]
  | cons c chunks ih =>
    have others := ih (recalls.offer period c)
    rwa [List.append_assoc] at others

/-! ## Histories keep to the rule -/

/-- The rule for one chunk, by what had become of those before. -/
def IsDue (period : UInt32) (past : History) (c : Chunk) (v : Verdict) : Prop :=
  v ≠ .listedAgain →
    (v = .sampledOut ↔ c.kind = .rib ∧ c.IsEarly period (past.lastTable? c.collector))

/-- A history keeps to the rule, behind what had become of other chunks before. -/
def IsSampled (period : UInt32) : History → History → Prop
  | _, [] => True
  | past, (c, v) :: rest => IsDue period past c v ∧ IsSampled period (past ++ [(c, v)]) rest

theorem isSampled_append : IsSampled period past (history₁ ++ history₂) ↔
    IsSampled period past history₁ ∧ IsSampled period (past ++ history₁) history₂ := by
  induction history₁ generalizing past with
  | nil => simp [IsSampled]
  | cons entry history₁ ih => simp [IsSampled, ih, and_assoc]

/-- Each chunk of a history keeps to the rule by those before it. -/
theorem IsSampled.isDue {before after : History} (sampled : IsSampled period [] past)
    (split : past = before ++ (c, v) :: after) : IsDue period before c v := by
  subst split
  exact (isSampled_append.mp sampled).2.1

/-- Whether sampling lets a table through is told by the last one that was admitted. -/
theorem Recalls.sampled_eq_false_iff (recalls : Recalls past a)
    (bounded : ∀ last ∈ past.lastTable? c.collector,
      last.fileTime.toInt ≤ Int64.maxValue.toInt - period.toNat) :
    a.sampled period c = false ↔ c.IsEarly period (past.lastTable? c.collector) := by
  rw [sampled, recalls c.collector]
  cases last : past.lastTable? c.collector with
  | none => simp [Chunk.IsEarly]
  | some last' =>
    rw [last] at bounded
    simp [Chunk.IsEarly, Int64.lt_iff_toInt_lt, Seconds.toInt_add_period (bounded last' rfl)]

theorem Recalls.isDue (recalls : Recalls past a)
    (bounded : ∀ last ∈ past.lastTable? c.collector,
      last.fileTime.toInt ≤ Int64.maxValue.toInt - period.toNat) :
    IsDue period past c (a.verdict (some period) c) := by
  have early := recalls.sampled_eq_false_iff bounded
  intro new
  rcases offer_cases period a c with ⟨verdict, -⟩ | ⟨verdict, table, dropped, -⟩ |
    ⟨verdict, table, passed, -⟩ | ⟨verdict, update, -⟩
  · exact absurd verdict new
  · simp [verdict, table, early.mp dropped]
  · simp [verdict, table, ← early, passed]
  · simp [verdict, update]

theorem History.mem_of_lastTable? (last : c ∈ past.lastTable? collector) :
    c ∈ past.map Prod.fst := by
  have isAdmitted := List.mem_of_mem_filter (List.mem_of_getLast? last)
  obtain ⟨entry, kept, rfl⟩ := List.mem_map.mp isAdmitted
  exact List.mem_map_of_mem (List.mem_of_mem_filter kept)

theorem Recalls.isSampled_judgeEach (recalls : Recalls past a)
    (bounded : ∀ c ∈ past.map Prod.fst ++ chunks,
      c.fileTime.toInt ≤ Int64.maxValue.toInt - period.toNat) :
    IsSampled period past (Admission.judgeEach (some period) chunks a) := by
  induction chunks generalizing past a with
  | nil => trivial
  | cons c chunks ih =>
    refine ⟨recalls.isDue fun last isLast => ?_, ih (recalls.offer period c) ?_⟩
    · exact bounded last (List.mem_append_left _ (History.mem_of_lastTable? isLast))
    · simpa using bounded

/-- As long as no sum of a time and a period leaves the range, each chunk of some answers keeps to
the rule. -/
theorem Recalls.isSampled_history {answers : List Answer} (recalls : Recalls past a)
    (bounded : ∀ c ∈ past.map Prod.fst ++ answers.flatMap Answer.chunks,
      c.fileTime.toInt ≤ Int64.maxValue.toInt - period.toNat) :
    IsSampled period past (Admission.history (some period) answers a) := by
  induction answers generalizing past a with
  | nil => trivial
  | cons answer answers ih =>
    rw [List.flatMap_cons, ← List.append_assoc] at bounded
    have judged := recalls.judgeEach period answer.chunks
    -- nothing of the tables is forgotten behind an answer
    refine isSampled_append.mpr ⟨recalls.isSampled_judgeEach fun c here => ?_, ih judged ?_⟩
    · exact bounded c (List.mem_append_left _ here)
    · rwa [List.map_append, map_fst_judgeEach]

theorem Recalls.absorbAll {g : Gathering} (recalls : Recalls past g.admission)
    (period : UInt32) (answers : List Answer) :
    Recalls (past ++ Admission.history (some period) answers g.admission)
      (g.absorbAll (some period) answers).admission := by
  induction answers generalizing past g with
  | nil => rwa [Admission.history, List.append_nil]
  | cons answer answers ih =>
    have others := ih (g := g.absorb (some period) answer) (recalls.judgeEach period answer.chunks)
    rwa [List.append_assoc] at others

/-- The tables of a collector that are admitted are those that the rule leaves of its own tables,
without those that were listed again; no other chunk matters. -/
theorem IsSampled.spaced_eq {rest : History} (sampled : IsSampled period past rest)
    (collector : String) :
    rest.admitted.filter (Chunk.isTableOf collector) =
      Chunk.spaced period (past.lastTable? collector)
        (rest.unlisted.filter (Chunk.isTableOf collector)) := by
  induction rest generalizing past with
  | nil => rfl
  | cons entry rest ih =>
    obtain ⟨c, v⟩ := entry
    obtain ⟨due, others⟩ := sampled
    have others := ih others
    rw [History.lastTable?_concat] at others
    rw [History.admitted_cons, History.unlisted_cons]
    by_cases own : c.isTableOf collector
    · obtain ⟨table, rfl⟩ := Chunk.isTableOf_iff.mp own
      cases v with
      | listedAgain => simpa using others
      | sampledOut =>
        have early := ((due (by simp)).mp rfl).2
        simpa [own, Chunk.spaced, early] using others
      | admitted =>
        have late : ¬ c.IsEarly period (past.lastTable? c.collector) := fun early => by
          simpa using (due (by simp)).mpr ⟨table, early⟩
        simpa [own, Chunk.spaced, late] using others
    · cases v <;> simpa [own] using others

end Admission

namespace Discovery

variable {κ : Type} [Catalogue κ] {d : Discovery κ} {calls : List FetchCall}

/-- **Sampling.** A discovery has been set up and is called for chunks any number of times, always
with the same period of sampling, and no time is so late that the period does not fit behind it. The
history tells what becomes of each chunk that is listed, and what is remembered is the time of the
last table of each collector that was admitted. A chunk that was not listed before is dropped just
if it is a table and comes less than the period after that time. So the tables of a collector that
are found in all calls are at least the period apart, and they depend on nothing but the tables that
this collector has listed for the first time. -/
theorem samples_tables (table : List κ) (fetches : (ofList table).Fetches calls d)
    (period : UInt32) (fixed : ∀ call ∈ calls, call.criteria.ribPeriod? = some period)
    (bounded : ∀ chunk ∈ calls.flatMap FetchCall.listed,
      chunk.fileTime.toInt ≤ Int64.maxValue.toInt - period.toNat) :
    let history := Admission.history (some period) (calls.flatMap FetchCall.answers) {}
    let found := calls.flatMap FetchCall.found
    history.map Prod.fst = calls.flatMap FetchCall.listed ∧ history.admitted = found ∧
      d.admission.Recalls history ∧
      (∀ (before : Admission.History) c v after, history = before ++ (c, v) :: after →
        v ≠ .listedAgain → (v = .sampledOut ↔
          c.kind = .rib ∧ c.IsEarly period (before.lastTable? c.collector))) ∧
      ∀ collector, (found.filter (Chunk.isTableOf collector)).Pairwise (Chunk.IsLate period) ∧
        found.filter (Chunk.isTableOf collector) =
          Chunk.spaced period none (history.unlisted.filter (Chunk.isTableOf collector)) := by
  intro history found
  have gathers := fetches.gathering_of_period fixed []
  have listed : history.map Prod.fst = calls.flatMap FetchCall.listed := by
    rw [Admission.map_fst_history, List.flatMap_assoc]
    rfl
  have admitted : history.admitted = found := by
    have backlogs := congrArg Gathering.backlog gathers
    rw [Admission.admitted_history] at backlogs
    exact backlogs.symm
  have recalls : d.admission.Recalls history := by
    have admissions := congrArg Gathering.admission gathers
    change d.admission = _ at admissions
    rw [admissions]
    exact Admission.Recalls.absorbAll (g := (ofList table).gathering []) .empty period _
  have sampled : Admission.IsSampled period [] history := by
    refine Admission.Recalls.isSampled_history .empty fun c here => bounded c ?_
    rwa [← listed, Admission.map_fst_history]
  refine ⟨listed, admitted, recalls, fun before c v after split => sampled.isDue split, ?_⟩
  intro collector
  have spaced := sampled.spaced_eq collector
  rw [admitted] at spaced
  refine ⟨?_, spaced⟩
  rw [spaced]
  exact (Chunk.pairwise_spaced period none _).1

/-! ## Tables of two collectors -/

/-- The chunks of two answers. -/
def sampledChunks : List (List Chunk) :=
  [[⟨"ris", "rrc00", .rib, "a", 1000, 0⟩, ⟨"ris", "rrc01", .rib, "b", 1100, 0⟩,
      ⟨"ris", "rrc00", .rib, "c", 1100, 0⟩, ⟨"ris", "rrc00", .update, "d", 1100, 300⟩],
    [⟨"ris", "rrc00", .rib, "e", 900, 0⟩, ⟨"ris", "rrc00", .rib, "a", 1000, 0⟩,
      ⟨"ris", "rrc00", .rib, "f", 1200, 0⟩]]

/-- The catalogue lists tables of two collectors, and one table of the first collector twice. -/
def sampledCatalogue : Replay where
  name := "replay"
  description := ""
  settings := []
  script := sampledChunks.map fun chunks => .chunks chunks none
  patience := 0
  starts := []

/-- With a period of 200 seconds, the tables of the first collector are admitted that are 200
seconds apart; the one that lies between them is dropped, and so is the one that comes late. -/
theorem samples_tables_of_two : ∃ (calls : List FetchCall) (d : Discovery Replay),
    (ofList [sampledCatalogue]).Fetches calls d ∧
      (Admission.history (some 200) (calls.flatMap FetchCall.answers) {}).map Prod.snd =
        [.admitted, .admitted, .sampledOut, .admitted, .sampledOut, .listedAgain, .admitted] ∧
      ((calls.flatMap FetchCall.found).filter (Chunk.isTableOf "rrc00")).map Chunk.locator =
        ["a", "f"] ∧
      ((calls.flatMap FetchCall.found).filter (Chunk.isTableOf "rrc00")).Pairwise
        (Chunk.IsLate 200) := by
  have fetches : (ofList [sampledCatalogue]).Fetches _ _ :=
    .between (retains_start _) (.call { ribPeriod? := some 200 } 1
      (.call { ribPeriod? := some 200 } 1 (.nil _)))
  have samples := samples_tables [sampledCatalogue] fetches 200 (by simp [call]) (by decide +kernel)
  exact ⟨_, _, fetches, by decide +kernel, by decide +kernel, (samples.2.2.2.2 "rrc00").1⟩

end Discovery

end RouteFeed
