import Mathlib.Data.List.Induction
import RouteFeed.Criteria.Basic
import RouteFeed.Proofs.Net.Block

/-!
# What criteria select

Criteria are collected by kind, each kind in a list of its own. Seen as one list of criteria, in
which neither order nor repetition counts, they select what meets every kind of which there is a
criterion, where a kind is met by what one of its criteria admits. This holds of elements and of
chunks, whatever changes have led to the collection, those included that failed. Of a record the
elements that are selected are left, in their order.

## Main definitions

* `Aspect`, `Criterion.aspect` — what a criterion is about
* `Criterion.AdmitsElement`, `Criterion.AdmitsChunk` — what a single criterion asks for
* `Aspect.MetBy` — some criterion about an aspect admits, or there is none
* `Criteria.toList` — a collection of criteria as one list
* `Criteria.Change`, `Criteria.changed` — changes of a collection

## Main results

* `Criteria.mem_toList_changed` — the criteria that changes add
* `Criteria.acceptsElement_iff`, `Criteria.acceptsChunk_iff` — what is selected
* `Criteria.selects_by_aspect` — all of it, after any changes
-/

namespace RouteFeed

/-! ## Single criteria -/

/-- What a criterion may be about. -/
inductive Aspect where
  /-- The project of a dump. -/
  | project
  /-- The collector of a dump. -/
  | collector
  /-- The kind of a dump. -/
  | kind
  /-- The peer of an element. -/
  | peer
  /-- The systems that a route starts from. -/
  | origin
  /-- The block of an element. -/
  | block
  /-- Announcement or withdrawal. -/
  | action
  /-- The path of an element. -/
  | path
deriving DecidableEq, Repr

/-- What criteria on dumps are about. -/
def Aspect.ofChunks : List Aspect := [.project, .collector, .kind]

/-- What criteria on elements are about. -/
def Aspect.ofElements : List Aspect := [.peer, .origin, .block, .action, .path]

/-- How the block of an element has to lie, told by addresses. -/
def BlockRelation.Relates (wanted found : Block) : BlockRelation → Prop
  | exact => found.address = wanted.address ∧ found.length = wanted.length
  | covering => wanted.addresses ⊆ found.addresses
  | covered => found.addresses ⊆ wanted.addresses
  | either => wanted.addresses ⊆ found.addresses ∨ found.addresses ⊆ wanted.addresses

theorem BlockRelation.holds_iff (relation : BlockRelation) (wanted found : Block) :
    relation.holds wanted found ↔ relation.Relates wanted found := by
  cases relation with
  | exact =>
    cases wanted
    cases found
    simp [holds, Relates]
  | covering => exact Block.covers_iff_subset
  | covered => exact Block.covers_iff_subset
  | either => simp [holds, Relates, Block.covers_iff_subset]

/-- Blocks of different kinds of addresses are never related. -/
theorem BlockRelation.family_eq_of_relates {relation : BlockRelation} {wanted found : Block}
    (relates : relation.Relates wanted found) : found.address.family = wanted.address.family := by
  cases relation with
  | exact => rw [relates.1]
  | covering => exact (Block.family_eq_of_subset relates).symm
  | covered => exact Block.family_eq_of_subset relates
  | either =>
    rcases relates with covering | covered
    · exact (Block.family_eq_of_subset covering).symm
    · exact Block.family_eq_of_subset covered

namespace Criterion

/-- What a criterion is about. -/
def aspect : Criterion → Aspect
  | project _ => .project
  | collector _ => .collector
  | kind _ => .kind
  | peer _ => .peer
  | origin _ => .origin
  | block _ _ => .block
  | action _ => .action
  | path _ => .path

/-- What a criterion on elements asks for. An element that does not tell where its route starts, or
has no path, has nothing that a criterion on origins, or on paths, could admit. -/
def AdmitsElement (e : Element) : Criterion → Prop
  | peer asn => e.peer = asn
  | origin asn => ∃ origins, e.origins? = some origins ∧ asn ∈ origins
  | block wanted relation => relation.Relates wanted e.block
  | action wanted => e.action = wanted
  | path pattern => ∃ path, e.path? = some path ∧ pattern.matchesText path.print
  | project _ | collector _ | kind _ => False

/-- What a criterion on dumps asks for. -/
def AdmitsChunk (chunk : Chunk) : Criterion → Prop
  | project name => chunk.project = name
  | collector name => chunk.collector = name
  | kind wanted => chunk.kind = wanted
  | peer _ | origin _ | block _ _ | action _ | path _ => False

end Criterion

/-- Among some criteria there is none about an aspect, or one of those that are admits. -/
def Aspect.MetBy (a : Aspect) (xs : List Criterion) (admits : Criterion → Prop) : Prop :=
  (∀ x ∈ xs, x.aspect ≠ a) ∨ ∃ x ∈ xs, x.aspect = a ∧ admits x

/-- Neither order nor repetition of criteria counts. -/
theorem Aspect.metBy_congr {xs ys : List Criterion} (same : ∀ x, x ∈ xs ↔ x ∈ ys) (a : Aspect)
    (admits : Criterion → Prop) : a.MetBy xs admits ↔ a.MetBy ys admits := by
  simp only [MetBy, same]

namespace Criteria

variable {c : Criteria} {xs : List Criterion} {x y : Criterion}

/-! ## Criteria as one list -/

/-- The criteria about an aspect. -/
def ofAspect (c : Criteria) : Aspect → List Criterion
  | .project => c.projects.map .project
  | .collector => c.collectors.map .collector
  | .kind => c.kinds.map .kind
  | .peer => c.peers.map .peer
  | .origin => c.origins.map .origin
  | .block => c.blocks.map fun (wanted, relation) => .block wanted relation
  | .action => c.actions.map .action
  | .path => c.paths.map .path

/-- The criteria of a collection. -/
def toList (c : Criteria) : List Criterion :=
  (Aspect.ofChunks ++ Aspect.ofElements).flatMap c.ofAspect

theorem aspect_of_mem_ofAspect {a : Aspect} (hx : x ∈ c.ofAspect a) : x.aspect = a := by
  cases a <;> obtain ⟨v, -, rfl⟩ := List.mem_map.mp hx <;> rfl

theorem mem_toList_iff : x ∈ c.toList ↔ x ∈ c.ofAspect x.aspect := by
  have all : x.aspect ∈ Aspect.ofChunks ++ Aspect.ofElements := by
    cases x.aspect <;> decide
  rw [toList, List.mem_flatMap]
  constructor
  · rintro ⟨a, -, hx⟩
    rwa [aspect_of_mem_ofAspect hx]
  · exact fun hx => ⟨x.aspect, all, hx⟩

theorem mem_ofAspect_iff {a : Aspect} : x ∈ c.ofAspect a ↔ x ∈ c.toList ∧ x.aspect = a := by
  rw [mem_toList_iff]
  constructor
  · intro hx
    obtain rfl := aspect_of_mem_ofAspect hx
    exact ⟨hx, rfl⟩
  · rintro ⟨hx, rfl⟩
    exact hx

theorem mem_insertNew {α : Type} [DecidableEq α] {values : List α} {value v : α} :
    v ∈ insertNew values value ↔ v ∈ values ∨ v = value := by
  unfold insertNew
  split_ifs with old
  · exact ⟨.inl, fun h => h.elim id fun same => same ▸ old⟩
  · simp

/-- Adding a criterion adds just this one. -/
theorem mem_toList_insert : x ∈ (c.insert y).toList ↔ x ∈ c.toList ∨ x = y := by
  rw [mem_toList_iff, mem_toList_iff]
  cases x <;> cases y <;> simp [insert, ofAspect, Criterion.aspect, mem_insertNew]

/-- The values of one kind do not restrict, or one of them holds, just if their aspect is met. -/
theorem someOrNone_iff {α : Type} {values : List α} {holds : α → Bool} {a : Aspect}
    {admits : Criterion → Prop} (make : α → Criterion) (listed : c.ofAspect a = values.map make)
    (meaning : ∀ v, holds v ↔ admits (make v)) :
    someOrNone values holds ↔ a.MetBy c.toList admits := by
  have same {p : Criterion → Prop} :
      (∃ x ∈ c.toList, x.aspect = a ∧ p x) ↔ ∃ v ∈ values, p (make v) := by
    simp only [← and_assoc, ← mem_ofAspect_iff, listed, List.mem_map, exists_exists_and_eq_and]
  have nothing : (∀ x ∈ c.toList, x.aspect ≠ a) ↔ values = [] := by
    rw [← List.map_eq_nil_iff (f := make), ← listed, List.eq_nil_iff_forall_not_mem]
    simp only [mem_ofAspect_iff, not_and, ne_eq]
  rw [someOrNone, Bool.or_eq_true, List.isEmpty_iff, List.any_eq_true, Aspect.MetBy, nothing, same]
  simp only [meaning]

theorem acceptsElement_iff (e : Element) : c.acceptsElement e ↔
    ∀ a ∈ Aspect.ofElements, a.MetBy c.toList (Criterion.AdmitsElement e) := by
  simp only [acceptsElement, Aspect.ofElements, Bool.and_eq_true, List.forall_mem_cons,
    List.not_mem_nil, false_implies, implies_true, and_true, and_assoc]
  refine and_congr (someOrNone_iff .peer rfl fun asn => ?_) <|
    and_congr (someOrNone_iff .origin rfl fun asn => ?_) <|
    and_congr (someOrNone_iff (fun b => .block b.1 b.2) rfl fun b => ?_) <|
    and_congr (someOrNone_iff .action rfl fun wanted => ?_)
      (someOrNone_iff .path rfl fun pattern => ?_)
  · simp [Criterion.AdmitsElement, eq_comm]
  · simp [Criterion.AdmitsElement, Option.any_eq_true]
  · exact b.2.holds_iff b.1 e.block
  · simp [Criterion.AdmitsElement, eq_comm]
  · simp [Criterion.AdmitsElement, Option.any_eq_true]

theorem acceptsChunk_iff (chunk : Chunk) : c.acceptsChunk chunk ↔
    (∀ a ∈ Aspect.ofChunks, a.MetBy c.toList (Criterion.AdmitsChunk chunk)) ∧
      ∀ i, c.interval? = some i → i.reaches chunk.fileTime chunk.endTime := by
  simp only [acceptsChunk, Aspect.ofChunks, Bool.and_eq_true, List.forall_mem_cons,
    List.not_mem_nil, false_implies, implies_true, and_true, and_assoc]
  refine and_congr (someOrNone_iff .project rfl fun name => ?_) <|
    and_congr (someOrNone_iff .collector rfl fun name => ?_) <|
    and_congr (someOrNone_iff .kind rfl fun wanted => ?_) ?_
  · simp [Criterion.AdmitsChunk, eq_comm]
  · simp [Criterion.AdmitsChunk, eq_comm]
  · simp [Criterion.AdmitsChunk, eq_comm]
  · cases c.interval? <;> simp

theorem not_hasElementCriteria_iff :
    ¬ c.hasElementCriteria ↔ ∀ a ∈ Aspect.ofElements, c.ofAspect a = [] := by
  simp [hasElementCriteria, Aspect.ofElements, ofAspect, and_assoc]

/-- There are criteria on elements just if some criterion of the list is about elements. -/
theorem hasElementCriteria_iff :
    c.hasElementCriteria ↔ ∃ x ∈ c.toList, x.aspect ∈ Aspect.ofElements := by
  rw [← not_iff_not, not_hasElementCriteria_iff]
  constructor
  · rintro nothing ⟨x, hx, about⟩
    rw [mem_toList_iff, nothing x.aspect about] at hx
    exact List.not_mem_nil hx
  · intro nothing a about
    refine List.eq_nil_iff_forall_not_mem.mpr fun x hx => ?_
    obtain ⟨inList, rfl⟩ := mem_ofAspect_iff.mp hx
    exact nothing ⟨x, inList, about⟩

theorem acceptsTime_eq_false_iff {t : Timestamp} :
    c.acceptsTime t = false ↔ ∃ i, c.interval? = some i ∧ i.contains t = false := by
  unfold acceptsTime
  cases c.interval? <;> simp

/-- Without criteria on elements every element is selected. -/
theorem acceptsElement_of_not_hasElementCriteria (none_about : ¬ c.hasElementCriteria)
    (e : Element) : c.acceptsElement e := by
  rw [acceptsElement_iff]
  intro a about
  refine .inl fun x hx here => none_about (hasElementCriteria_iff.mpr ⟨x, hx, ?_⟩)
  rwa [here]

/-- What is left of a record: the elements that are selected, unless the record is not in the
interval, or there are criteria on elements and none is selected. -/
theorem screen_eq (c : Criteria) (d : Decoded) : c.screen d =
    if c.acceptsTime d.time = false ∨
        c.hasElementCriteria ∧ ∀ e ∈ d.elements, c.acceptsElement e = false then none
    else some { d with elements := d.elements.filter c.acceptsElement } := by
  unfold screen
  by_cases time : c.acceptsTime d.time
  · by_cases about : c.hasElementCriteria
    · simp [time, about]
    · have all : d.elements.filter c.acceptsElement = d.elements :=
        List.filter_eq_self.mpr fun e _ => acceptsElement_of_not_hasElementCriteria about e
      simp [time, about, all]
  · simp [time]

/-! ## Changes -/

/-- A change of a collection of criteria. -/
inductive Change where
  /-- A criterion is added. -/
  | insert (x : Criterion)
  /-- The criterion that a kind and a value write is added. -/
  | add (kind value : String)
  /-- The interval is set. -/
  | setInterval (interval : Interval)
  /-- The interval is set to the last window before `now`. -/
  | setRecent (window : String) (live : Bool) (now : Seconds)
  /-- The sampling period of tables is set. -/
  | setRibPeriod (period : UInt32)

/-- The criterion that a change adds, if it is one that adds a criterion and does not fail. -/
def Change.added? : Change → Option Criterion
  | insert x => some x
  | add kind value => (Criterion.read kind value).toOption
  | _ => none

/-- A collection after a change; one that fails leaves it as it is. -/
def change (c : Criteria) : Change → Criteria
  | .insert x => c.insert x
  | .add kind value => (c.add kind value).toOption.getD c
  | .setInterval interval => c.setInterval interval
  | .setRecent window live now => (c.setRecent window live now).toOption.getD c
  | .setRibPeriod period => c.setRibPeriod period

/-- The collection that changes make of an empty one. -/
def changed (changes : List Change) : Criteria := changes.foldl change {}

@[simp] theorem toList_setInterval (c : Criteria) (interval : Interval) :
    (c.setInterval interval).toList = c.toList := rfl

@[simp] theorem toList_setRibPeriod (c : Criteria) (period : UInt32) :
    (c.setRibPeriod period).toList = c.toList := rfl

/-- A change adds its criterion, and no other. -/
theorem mem_toList_change (ch : Change) :
    x ∈ (c.change ch).toList ↔ x ∈ c.toList ∨ ch.added? = some x := by
  cases ch with
  | insert y => rw [change, mem_toList_insert, Change.added?, Option.some_inj, eq_comm (a := y)]
  | add kind value =>
    rw [change, add, Change.added?]
    cases Criterion.read kind value with
    | error e => simp [Except.toOption, Except.map]
    | ok y => simp [Except.toOption, Except.map, mem_toList_insert, eq_comm]
  | setInterval interval => simp [change, Change.added?]
  | setRecent window live now =>
    have nothing : (Change.setRecent window live now).added? = none := rfl
    rw [change, setRecent, nothing]
    cases Interval.recent window live now <;> simp [Except.toOption, Except.map]
  | setRibPeriod period => simp [change, Change.added?]

/-- The criteria of a collection are those that changes have added to it. -/
theorem mem_toList_changed (changes : List Change) :
    x ∈ (changed changes).toList ↔ x ∈ changes.filterMap Change.added? := by
  induction changes using List.reverseRecOn with
  | nil => simp [changed, toList, ofAspect, Aspect.ofChunks, Aspect.ofElements]
  | append_singleton changes ch ih =>
    rw [changed, List.foldl_append, List.foldl_cons, List.foldl_nil, mem_toList_change,
      List.filterMap_append, List.mem_append]
    exact or_congr ih (by simp [eq_comm])

/-! ## What is selected after changes -/

/-- What a collection selects, told by a list of criteria. -/
structure Selects (c : Criteria) (xs : List Criterion) : Prop where
  /-- An element is selected if every aspect of elements is met. -/
  element (e : Element) : c.acceptsElement e ↔
    ∀ a ∈ Aspect.ofElements, a.MetBy xs (Criterion.AdmitsElement e)
  /-- A chunk is selected if every aspect of dumps is met, and it reaches into the interval. -/
  chunk (chunk : Chunk) : c.acceptsChunk chunk ↔
    (∀ a ∈ Aspect.ofChunks, a.MetBy xs (Criterion.AdmitsChunk chunk)) ∧
      ∀ i, c.interval? = some i → i.reaches chunk.fileTime chunk.endTime
  /-- Nothing is left of a record that is not in the interval, and of one without elements that are
  selected if there are criteria on elements. -/
  rejected (d : Decoded) : c.screen d = none ↔
    (∃ i, c.interval? = some i ∧ i.contains d.time = false) ∨
      (∃ x ∈ xs, x.aspect ∈ Aspect.ofElements) ∧ ∀ e ∈ d.elements, c.acceptsElement e = false
  /-- Of any other record the elements that are selected are left, in their order. -/
  kept {d rest : Decoded} (some_left : c.screen d = some rest) :
    rest = { d with elements := d.elements.filter c.acceptsElement }

theorem selects_of_mem_iff (same : ∀ x, x ∈ c.toList ↔ x ∈ xs) : c.Selects xs where
  element e := by
    rw [acceptsElement_iff]
    exact forall₂_congr fun a _ => Aspect.metBy_congr same a _
  chunk chunk := by
    rw [acceptsChunk_iff]
    exact and_congr_left fun _ => forall₂_congr fun a _ => Aspect.metBy_congr same a _
  rejected d := by
    simp only [screen_eq, acceptsTime_eq_false_iff, hasElementCriteria_iff, same, ite_eq_left_iff,
      reduceCtorEq, imp_false, not_not]
  kept some_left := by
    rw [screen_eq, Option.ite_none_left_eq_some] at some_left
    exact (Option.some.inj some_left.2).symm

/-- Collections that are told by the same criteria, and have the same interval, decide alike. -/
theorem Selects.eq_of_interval?_eq {c' : Criteria} (selects : c.Selects xs)
    (selects' : c'.Selects xs) (interval : c.interval? = c'.interval?) :
    c.acceptsElement = c'.acceptsElement ∧ c.acceptsChunk = c'.acceptsChunk ∧
      c.screen = c'.screen := by
  have elements : c.acceptsElement = c'.acceptsElement := funext fun e =>
    Bool.eq_iff_iff.mpr ((selects.element e).trans (selects'.element e).symm)
  refine ⟨elements, funext fun chunk => ?_, funext fun d => ?_⟩
  · rw [Bool.eq_iff_iff, selects.chunk, selects'.chunk, interval]
  · have rejected : c.screen d = none ↔ c'.screen d = none := by
      rw [selects.rejected, selects'.rejected, interval, elements]
    cases left : c.screen d with
    | none => exact (rejected.mp left).symm
    | some rest =>
      obtain ⟨rest', left'⟩ := Option.ne_none_iff_exists'.mp (mt rejected.mpr (by simp [left]))
      rw [left', selects.kept left, selects'.kept left', elements]

/-- **What criteria select.** Whatever changes have been made of an empty collection, failed ones
included, it selects by the criteria that were added: an element or a chunk has to meet every aspect
of its own, and an aspect is met if no criterion about it was added or one of those that were
admits; a chunk has to reach into the interval, too. Criteria on blocks admit by the addresses of
the blocks, and never a block of the other kind of addresses. Of a record the elements that are
selected are left, in their order; nothing is left of it if it is not in the interval, or if there
are criteria on elements and none of its elements is selected. In whatever order and however often
the same criteria are added, the same is selected. -/
theorem selects_by_aspect (changes : List Change) :
    (changed changes).Selects (changes.filterMap Change.added?) ∧
      (∀ (e : Element) (wanted : Block) (relation : BlockRelation),
        (Criterion.block wanted relation).AdmitsElement e →
          e.block.address.family = wanted.address.family) ∧
      ∀ changes' : List Change,
        (∀ x, x ∈ changes.filterMap Change.added? ↔ x ∈ changes'.filterMap Change.added?) →
        (changed changes).interval? = (changed changes').interval? →
          (changed changes).acceptsElement = (changed changes').acceptsElement ∧
          (changed changes).acceptsChunk = (changed changes').acceptsChunk ∧
          (changed changes).screen = (changed changes').screen := by
  have selects := selects_of_mem_iff fun x => mem_toList_changed (x := x) changes
  refine ⟨selects, fun e wanted relation => BlockRelation.family_eq_of_relates,
    fun changes' same interval => ?_⟩
  have selects' : (changed changes').Selects (changes.filterMap Change.added?) :=
    selects_of_mem_iff fun x => (mem_toList_changed changes').trans (same x).symm
  exact selects.eq_of_interval?_eq selects' interval

/-- Some changes: two peers, of which one is written twice, a third that cannot be read, and a
block. -/
def sampleChanges : List Change :=
  [.add "peer_asn" "64500", .setInterval ⟨100, some 200⟩, .add "peer_asn" "AS64501",
    .insert (.peer 64502), .add "prefix_sub" "10.0.0.0/8", .add "peer_asn" " 64500 "]

/-- Changes that add the same criteria in another order. -/
def otherChanges : List Change :=
  [.add "prefix_sub" "10.0.0.0/8", .insert (.peer 64502), .add "peer_asn" "64500",
    .insert (.peer 64502), .setInterval ⟨100, some 200⟩]

/-- Some elements: two that are selected, of which one is written with host bits, one of another
peer, one of a block beside the one that is asked for, and one whose address is a long one that
starts with the same bits. -/
def sampleElements : List Element :=
  [{ peer := 64500, block := ⟨.ofNat .v4 0x0A010000, 16, by decide⟩ },
   { peer := 64501, block := ⟨.ofNat .v4 0x0A010000, 16, by decide⟩ },
   { peer := 64502, block := ⟨.ofNat .v4 0x0B000000, 8, by decide⟩ },
   { peer := 64502, block := ⟨.ofNat .v4 0x0A090909, 24, by decide⟩ },
   { peer := 64500, block := ⟨.ofNat .v6 (0x0A01 * twoTo 112), 16, by decide⟩ }]

/-- Both collections leave the same of a record, here two of its elements. -/
theorem selects_by_aspect_sample :
    (∀ x, x ∈ sampleChanges.filterMap Change.added? ↔ x ∈ otherChanges.filterMap Change.added?) ∧
    (changed sampleChanges).interval? = (changed otherChanges).interval? ∧
    (changed sampleChanges).screen = (changed otherChanges).screen ∧
    ((changed otherChanges).screen ⟨Timestamp.ofInt 150, sampleElements⟩).map Decoded.elements =
      some [sampleElements[0], sampleElements[3]] := by
  have same : ∀ x, x ∈ sampleChanges.filterMap Change.added? ↔
      x ∈ otherChanges.filterMap Change.added? := by
    have first : sampleChanges.filterMap Change.added? = [.peer 64500, .peer 64502,
      .block ⟨.ofNat .v4 0x0A000000, 8, by decide⟩ .covered, .peer 64500] := rfl
    have second : otherChanges.filterMap Change.added? =
      [.block ⟨.ofNat .v4 0x0A000000, 8, by decide⟩ .covered, .peer 64502, .peer 64500,
        .peer 64502] := rfl
    intro x
    simp only [first, second, List.mem_cons, List.not_mem_nil, or_false]
    tauto
  obtain ⟨-, -, alike⟩ := selects_by_aspect sampleChanges
  obtain ⟨-, -, screens⟩ := alike otherChanges same rfl
  exact ⟨same, rfl, screens, by decide +kernel⟩

end Criteria

end RouteFeed
