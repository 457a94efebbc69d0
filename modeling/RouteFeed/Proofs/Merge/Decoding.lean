import Mathlib.Data.List.Basic
import RouteFeed.Merge.Basic

/-!
# What decoding brings

Pulling goes over the records of a dump, one after the other and each once, until one of them meets
the criteria. So under the same criteria throughout a dump delivers its *screened* records: those
that the criteria let through, as the criteria leave them, in the order of the dump. Each gets a
position, and a failure stands behind the last of them.

## Main definitions

* `Contents.Yields` — what pulling leads to, told by the records of the dump
* `Contents.screened` — the records that the criteria let through
* `Chunk.deliver` — these records with the description of their dump and their positions
* `Record.IsOf` — a record is one of a dump, told field by field
* `Opener.output` — what a chunk adds to what a merge delivers
* `Opener.sample`, `Chunk.samples` — some dumps with times of all kinds

## Main results

* `Contents.yields_pull` — pulling does what `Contents.Yields` says
* `Contents.screened_of_found` and its companions — pulling takes screened records from the front
-/

namespace RouteFeed

namespace Contents

variable {c : Criteria} {x rest : Contents} {d : Decoded} {e : FeedError}

/-- What pulling leads to, told by the records of the dump. -/
inductive Yields (c : Criteria) (x : Contents) : Pulled → Prop where
  /-- Some records are rejected, the one behind them is not. -/
  | found {skipped rest : List Decoded} {d kept : Decoded}
      (split : x.records = skipped ++ d :: rest)
      (rejected : ∀ s ∈ skipped, c.screen s = none) (accepted : c.screen d = some kept) :
      Yields c x (.found kept ⟨rest, x.failure?⟩)
  /-- All records are rejected, and the dump ends. -/
  | finished (rejected : ∀ s ∈ x.records, c.screen s = none) (whole : x.failure? = none) :
      Yields c x .finished
  /-- All records are rejected, and decoding fails. -/
  | failed {e : FeedError} (rejected : ∀ s ∈ x.records, c.screen s = none)
      (damaged : x.failure? = some e) : Yields c x (.failed e)

/-- A record that is rejected makes no difference to what pulling leads to. -/
theorem Yields.cons_rejected {ds : List Decoded} {failure? : Option FeedError} {p : Pulled}
    (hd : c.screen d = none) (h : Yields c ⟨ds, failure?⟩ p) : Yields c ⟨d :: ds, failure?⟩ p := by
  cases h with
  | @found skipped rest d' kept split rejected accepted =>
    have split' : d :: ds = (d :: skipped) ++ d' :: rest := by simpa using split
    exact .found (x := ⟨d :: ds, failure?⟩) split' (by simpa [hd] using rejected) accepted
  | finished rejected whole => exact .finished (by simpa [hd] using rejected) whole
  | failed rejected damaged => exact .failed (by simpa [hd] using rejected) damaged

/-- Pulling goes over the records up to the first that is not rejected. -/
theorem yields_pull (c : Criteria) (x : Contents) : Yields c x (x.pull c) := by
  obtain ⟨ds, failure?⟩ := x
  unfold pull
  dsimp only
  induction ds with
  | nil =>
    cases failure? with
    | none => exact .finished (by simp) rfl
    | some e => exact .failed (by simp) rfl
  | cons d ds ih =>
    rw [pullFrom]
    cases hd : c.screen d with
    | none => exact ih.cons_rejected hd
    | some kept => exact .found (List.nil_append _).symm (by simp) hd

/-- The records that the criteria let through, as the criteria leave them. -/
def screened (c : Criteria) (x : Contents) : List Decoded := x.records.filterMap c.screen

theorem screened_eq_nil (h : ∀ s ∈ x.records, c.screen s = none) : x.screened c = [] :=
  List.filterMap_eq_nil_iff.mpr h

theorem screened_of_found (h : x.pull c = .found d rest) :
    x.screened c = d :: rest.screened c := by
  have yields := h ▸ yields_pull c x
  cases yields with
  | found split rejected accepted =>
    simp [screened, split, accepted, List.filterMap_eq_nil_iff.mpr rejected]

theorem failure_of_found (h : x.pull c = .found d rest) : rest.failure? = x.failure? := by
  have yields := h ▸ yields_pull c x
  cases yields with
  | found => rfl

theorem length_of_found (h : x.pull c = .found d rest) :
    rest.records.length < x.records.length := by
  have yields := h ▸ yields_pull c x
  cases yields with
  | found split => simp [split]; omega

theorem screened_of_finished (h : x.pull c = .finished) :
    x.screened c = [] ∧ x.failure? = none := by
  have yields := h ▸ yields_pull c x
  cases yields with
  | finished rejected whole => exact ⟨screened_eq_nil rejected, whole⟩

theorem screened_of_failed (h : x.pull c = .failed e) :
    x.screened c = [] ∧ x.failure? = some e := by
  have yields := h ▸ yields_pull c x
  cases yields with
  | failed rejected damaged => exact ⟨screened_eq_nil rejected, damaged⟩

end Contents

/-! ## Positions -/

/-- Records of a dump with its description and their positions, when so many were delivered before
them and none comes after them. -/
def Chunk.deliver (chunk : Chunk) : Nat → List Decoded → List Record
  | _, [] => []
  | _, [d] => [d.ofChunk chunk .last]
  | before, d :: next :: rest =>
    d.ofChunk chunk (if before = 0 then .first else .middle) ::
      chunk.deliver (before + 1) (next :: rest)

namespace Chunk

variable (chunk : Chunk) (before : Nat)

/-- A delivered record has the time of the record of the dump, and the dump's description. -/
theorem deliver_map_time (ds : List Decoded) :
    (chunk.deliver before ds).map Record.time = ds.map Decoded.time := by
  fun_induction Chunk.deliver chunk before ds with
  | case1 => rfl
  | case2 => rfl
  | case3 before d next rest ih => simpa [Decoded.ofChunk] using ih

theorem exists_of_mem_deliver {ds : List Decoded} {r : Record} (hr : r ∈ chunk.deliver before ds) :
    ∃ d ∈ ds, ∃ position, r = d.ofChunk chunk position := by
  fun_induction Chunk.deliver chunk before ds with
  | case1 => simp at hr
  | case2 before d => exact ⟨d, List.mem_cons_self, _, List.mem_singleton.mp hr⟩
  | case3 before d next rest ih =>
    rcases List.mem_cons.mp hr with rfl | hr
    · exact ⟨d, List.mem_cons_self, _, rfl⟩
    · obtain ⟨d', hd', position, rfl⟩ := ih hr
      exact ⟨d', List.mem_cons_of_mem _ hd', position, rfl⟩

end Chunk

/-- A record is one of a dump: the description is that of the dump, and all the rest but the position
is what the dump holds. -/
structure Record.IsOf (r : Record) (chunk : Chunk) (d : Decoded) : Prop where
  project : r.project = chunk.project
  collector : r.collector = chunk.collector
  kind : r.kind = chunk.kind
  dumpTime : r.dumpTime = chunk.fileTime
  locator : r.locator = chunk.locator
  time : r.time = d.time
  elements : r.elements = d.elements

theorem Decoded.isOf_ofChunk (d : Decoded) (chunk : Chunk) (position : Position) :
    (d.ofChunk chunk position).IsOf chunk d := ⟨rfl, rfl, rfl, rfl, rfl, rfl, rfl⟩

theorem Chunk.forall₂_isOf_deliver (chunk : Chunk) (before : Nat) (ds : List Decoded) :
    List.Forall₂ (fun d r => r.IsOf chunk d) ds (chunk.deliver before ds) := by
  fun_induction Chunk.deliver chunk before ds with
  | case1 => exact .nil
  | case2 _ d => exact .cons (d.isOf_ofChunk chunk _) .nil
  | case3 before d next rest ih => exact .cons (d.isOf_ofChunk chunk _) ih

/-! ## What a chunk adds -/

/-- What opening a chunk adds to what is delivered under fixed criteria: its screened records, and a
failure behind them if decoding fails; nothing if the chunk cannot be opened. -/
def Opener.output (opener : Opener) (c : Criteria) (chunk : Chunk) :
    List (Except FeedError Record) :=
  match opener chunk with
  | .error _ => []
  | .ok x => (chunk.deliver 0 (x.screened c)).map .ok ++ (x.failure?.map .error).toList

/-- A chunk that can be opened adds one record of its dump for each record that the criteria let
through, in their order, and then the failure of the dump. -/
theorem Opener.exists_output {opener : Opener} {chunk : Chunk} {x : Contents} (c : Criteria)
    (opened : opener chunk = .ok x) : ∃ records,
      List.Forall₂ (fun d r => r.IsOf chunk d) (x.screened c) records ∧
      opener.output c chunk = records.map .ok ++ (x.failure?.map .error).toList :=
  ⟨_, chunk.forall₂_isOf_deliver 0 _, by rw [output, opened]⟩

namespace Lane

/-- The records that a lane has still to deliver under fixed criteria. -/
def upcoming (c : Criteria) (l : Lane) : List Record :=
  l.chunk.deliver l.delivered (l.head :: l.rest.screened c)

/-- What a lane has still to deliver under fixed criteria, a failure included. -/
def output (c : Criteria) (l : Lane) : List (Except FeedError Record) :=
  (l.upcoming c).map .ok ++ (l.rest.failure?.map .error).toList

end Lane

/-! ## Some dumps -/

/-- Three dumps by name: one with a negative zero and a value that is not a number, one whose
decoding fails behind two zeros, and one with a positive zero. No other dump can be opened. -/
def Opener.sample : Opener := fun chunk =>
  match chunk.locator with
  | "wide" => .ok ⟨[⟨⟨0x8000000000000000⟩, []⟩, ⟨⟨0x7FF8000000000000⟩, []⟩], none⟩
  | "torn" => .ok ⟨[⟨⟨0x8000000000000000⟩, []⟩, ⟨⟨0⟩, []⟩], some (.corrupted "torn" "cut off")⟩
  | "late" => .ok ⟨[⟨⟨0⟩, []⟩], none⟩
  | _ => .error (.unopenable chunk.locator "no such file")

/-- Chunks for these dumps. -/
def Chunk.samples : List Chunk :=
  [⟨"ris", "rrc01", .update, "wide", 0, 300⟩, ⟨"ris", "rrc00", .update, "lost", 0, 300⟩,
   ⟨"ris", "rrc00", .update, "torn", 0, 300⟩, ⟨"ris", "rrc00", .update, "late", 0, 300⟩]

end RouteFeed
