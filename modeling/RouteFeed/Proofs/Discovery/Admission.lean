import Mathlib.Data.List.Basic
import RouteFeed.Discovery.Admission

/-!
# What is admitted

Admission picks chunks out of those that are offered and leaves them in their order.

## Main results

* `Admission.offerAll_sublist` — the chunks that are admitted are some of those that are offered
* `Admission.offerEach_keeps` — what each chunk keeps, the chunks of an answer keep
-/

namespace RouteFeed.Admission

theorem offerEach_sublist (period? : Option UInt32) (chunks : List Chunk) (a : Admission) :
    (offerEach period? chunks a).1.Sublist chunks := by
  induction chunks generalizing a with
  | nil => exact .slnil
  | cons c chunks ih =>
    have others := ih (offer period? a c).2
    unfold offerEach
    dsimp only
    split_ifs
    · exact others.cons_cons c
    · exact others.cons c

/-- The chunks that are admitted are some of those that are offered, in their order. -/
theorem offerAll_sublist (period? : Option UInt32) (chunks : List Chunk) (a : Admission) :
    (offerAll period? chunks a).1.Sublist chunks := offerEach_sublist period? chunks a

/-- What each chunk keeps true of the chunks offered so far and of what is remembered, the chunks of
an answer keep true. -/
theorem offerEach_keeps {P : List Chunk → Admission → Prop} {period? : Option UInt32}
    {listed : List Chunk} {a : Admission}
    (kept : ∀ listed a c, P listed a → P (listed ++ [c]) (offer period? a c).2)
    (chunks : List Chunk) (here : P listed a) :
    P (listed ++ chunks) (offerEach period? chunks a).2 := by
  induction chunks generalizing listed a with
  | nil => rwa [List.append_nil]
  | cons c chunks ih =>
    have others := ih (kept listed a c here)
    rwa [List.append_assoc] at others

end RouteFeed.Admission
