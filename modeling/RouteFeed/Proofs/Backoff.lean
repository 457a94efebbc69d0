import Mathlib.Algebra.Group.Nat.Defs
import Mathlib.Data.List.Basic
import Mathlib.Data.List.Induction
import Mathlib.Order.MinMax
import RouteFeed.Backoff

/-!
# Delays in closed form

Each wait makes the delay grow, by a sum that stops at the greatest duration, and brings it into the
bounds of the policy again. The stops and the bounds of all these waits do not add up. The delay
after some waits is the one that growth without any bound leads to, brought into the bounds once.

## Main definitions

* `BackoffPolicy.unbounded` — the delays if there were no bounds
* `Backoff.Command`, `Backoff.performAll` — waits and returns to the first delay
* `Backoff.waits` — the waits since the last return
* `Backoff.delayAfter` — the delay to wait after some commands of a new backoff

## Main results

* `BackoffPolicy.bounded_grown_bounded` — bounds and growth
* `Backoff.nanos_current_performAll` — the delay that is stored after any commands
* `Backoff.delays_in_closed_form` — the delays, that they do not decrease, and their bounds
-/

namespace RouteFeed

namespace Duration

variable (d e : Duration)

theorem nanos_add : (d.add e).nanos = min (d.nanos + e.nanos) greatestNanos := rfl

theorem nanos_double : d.double.nanos = min (d.nanos * 2) greatestNanos := rfl

theorem nanos_shorter : (d.shorter e).nanos = min d.nanos e.nanos := by
  unfold shorter
  split_ifs with le
  · exact (min_eq_left le).symm
  · exact (min_eq_right (Nat.le_of_not_le le)).symm

theorem nanos_longer : (d.longer e).nanos = max d.nanos e.nanos := by
  unfold longer
  split_ifs with le
  · exact (max_eq_right le).symm
  · exact (max_eq_left (Nat.le_of_not_le le)).symm

end Duration

/-! ## Growth and bounds -/

namespace BackoffPolicy

variable (p : BackoffPolicy)

/-- The delay after so many waits if there were no bounds, in nanoseconds. -/
def unbounded (waits : ℕ) : ℕ :=
  match p.growth with
  | .fixed => p.initial.nanos
  | .linear step => p.initial.nanos + waits * step.nanos
  | .exponential => p.initial.nanos * 2 ^ waits

/-- A number of nanoseconds, brought into the bounds. -/
def bounded (n : ℕ) : ℕ := max p.initial.nanos (min p.most.nanos n)

/-- The number of nanoseconds that follows another one if there are no bounds. -/
def grown (n : ℕ) : ℕ :=
  match p.growth with
  | .fixed => p.initial.nanos
  | .linear step => n + step.nanos
  | .exponential => n * 2

theorem nanos_clamp (d : Duration) : (p.clamp d).nanos = p.bounded d.nanos := by
  rw [clamp, Duration.nanos_longer, Duration.nanos_shorter, bounded, max_comm, min_comm]

theorem nanos_grow (d : Duration) : (p.grow d).nanos = min (p.grown d.nanos) greatestNanos := by
  unfold grow grown
  cases p.growth with
  | fixed => exact (min_eq_left p.initial.nanos_le).symm
  | linear step => exact d.nanos_add step
  | exponential => exact d.nanos_double

theorem unbounded_zero : p.unbounded 0 = p.initial.nanos := by
  unfold unbounded
  cases p.growth <;> simp

theorem unbounded_succ (waits : ℕ) : p.unbounded (waits + 1) = p.grown (p.unbounded waits) := by
  unfold unbounded grown
  cases p.growth with
  | fixed => rfl
  | linear step => simp only [Nat.succ_mul, Nat.add_assoc]
  | exponential => simp only [Nat.pow_succ, Nat.mul_assoc]

/-- Growth leads upwards from the first delay on. -/
theorem le_grown {n : ℕ} (le : p.initial.nanos ≤ n) : p.initial.nanos ≤ p.grown n := by
  unfold grown
  cases p.growth with
  | fixed => exact le_refl _
  | linear step => exact le.trans (Nat.le_add_right _ _)
  | exponential => exact le.trans (Nat.le_mul_of_pos_right n Nat.two_pos)

theorem initial_le_unbounded (waits : ℕ) : p.initial.nanos ≤ p.unbounded waits := by
  induction waits with
  | zero => exact p.unbounded_zero.ge
  | succ waits ih =>
    rw [unbounded_succ]
    exact p.le_grown ih

theorem unbounded_le_succ (waits : ℕ) : p.unbounded waits ≤ p.unbounded (waits + 1) := by
  unfold unbounded
  cases p.growth with
  | fixed => exact le_refl _
  | linear step => exact Nat.add_le_add_left (Nat.mul_le_mul_right _ waits.le_succ) _
  | exponential => exact Nat.mul_le_mul_left _ (Nat.pow_le_pow_right Nat.two_pos waits.le_succ)

theorem unbounded_mono : Monotone p.unbounded := monotone_nat_of_le_succ p.unbounded_le_succ

theorem bounded_mono : Monotone p.bounded := fun _ _ le =>
  max_le_max (le_refl _) (min_le_min (le_refl _) le)

theorem bounded_initial : p.bounded p.initial.nanos = p.initial.nanos :=
  max_eq_left (min_le_right _ _)

/-- A delay may be brought into the bounds before it grows, and stop at the greatest duration then:
once it is brought into the bounds again, nothing of that shows. -/
theorem bounded_grown_bounded {n : ℕ} (le : p.initial.nanos ≤ n) :
    p.bounded (min (p.grown (p.bounded n)) greatestNanos) = p.bounded (p.grown n) := by
  have most := p.most.nanos_le
  have initial := p.initial.nanos_le
  unfold bounded grown
  cases p.growth <;> dsimp only <;> omega

end BackoffPolicy

/-! ## Commands -/

namespace Backoff

variable {b : Backoff}

/-- What may be done with a backoff. -/
inductive Command where
  /-- A wait. -/
  | next
  /-- The return to the first delay. -/
  | reset
deriving DecidableEq

/-- The backoff after a command. -/
def perform (b : Backoff) : Command → Backoff
  | .next => b.next.2
  | .reset => b.reset

/-- The backoff after several commands, one after the other. -/
def performAll (b : Backoff) (commands : List Command) : Backoff := commands.foldl perform b

/-- The number of waits since the last return to the first delay, or since the start. -/
def waits (commands : List Command) : ℕ := (commands.reverse.takeWhile (· = .next)).length

/-- The delay of a wait that comes after some commands of a new backoff. -/
def delayAfter (p : BackoffPolicy) (commands : List Command) : Duration :=
  ((ofPolicy p).performAll commands).next.1

theorem performAll_concat (b : Backoff) (commands : List Command) (last : Command) :
    b.performAll (commands ++ [last]) = (b.performAll commands).perform last := List.foldl_concat ..

@[simp] theorem waits_next (commands : List Command) :
    waits (commands ++ [.next]) = waits commands + 1 := by simp [waits]

@[simp] theorem waits_reset (commands : List Command) : waits (commands ++ [.reset]) = 0 := by
  simp [waits]

theorem waits_le_append {later : List Command} (waitsOnly : .reset ∉ later)
    (commands : List Command) : waits commands ≤ waits (commands ++ later) := by
  induction later using List.reverseRecOn with
  | nil => rw [List.append_nil]
  | append_singleton later last ih =>
    rw [List.mem_append, List.mem_singleton, not_or] at waitsOnly
    rw [← List.append_assoc]
    cases last with
    | next =>
      rw [waits_next]
      exact (ih waitsOnly.1).trans (Nat.le_succ _)
    | reset => exact absurd rfl waitsOnly.2

theorem policy_perform (b : Backoff) (command : Command) :
    (b.perform command).policy = b.policy := by
  cases command <;> rfl

theorem policy_performAll (b : Backoff) (commands : List Command) :
    (b.performAll commands).policy = b.policy := by
  induction commands generalizing b with
  | nil => rfl
  | cons first commands ih => exact (ih (b.perform first)).trans (b.policy_perform first)

/-- One wait more: the stored delay stays the closed form. -/
theorem nanos_current_next {p : BackoffPolicy} {waits : ℕ} (policy : b.policy = p)
    (closed : b.current.nanos = p.bounded (p.unbounded waits)) :
    b.next.2.current.nanos = p.bounded (p.unbounded (waits + 1)) := by
  subst policy
  calc b.next.2.current.nanos
      = b.policy.bounded (min (b.policy.grown b.current.nanos) greatestNanos) := by
        rw [next, BackoffPolicy.nanos_clamp, BackoffPolicy.nanos_grow]
    _ = b.policy.bounded (b.policy.unbounded (waits + 1)) := by
        rw [closed, BackoffPolicy.bounded_grown_bounded _ (b.policy.initial_le_unbounded waits),
          BackoffPolicy.unbounded_succ]

/-- The delay that is stored after any commands. -/
theorem nanos_current_performAll (p : BackoffPolicy) (commands : List Command) :
    ((ofPolicy p).performAll commands).current.nanos =
      p.bounded (p.unbounded (waits commands)) := by
  have initial : p.initial.nanos = p.bounded (p.unbounded 0) := by
    rw [p.unbounded_zero, p.bounded_initial]
  induction commands using List.reverseRecOn with
  | nil => exact initial
  | append_singleton commands last ih =>
    have policy : ((ofPolicy p).performAll commands).policy = p := policy_performAll _ commands
    rw [performAll_concat]
    cases last with
    | next =>
      rw [waits_next]
      exact nanos_current_next policy ih
    | reset =>
      rw [waits_reset, ← initial]
      exact congrArg (fun q : BackoffPolicy => q.initial.nanos) policy

/-- **Delays in closed form.** A wait after any waits and returns has the delay that growth without
bounds leads to from the last return on, brought into the bounds once. So delays do not decrease
until the next return, and they stay in the bounds as long as these are in order. -/
theorem delays_in_closed_form (p : BackoffPolicy) (commands : List Command) :
    (delayAfter p commands).nanos =
        max p.initial.nanos (min p.most.nanos (p.unbounded (waits commands))) ∧
      (∀ later, .reset ∉ later →
        (delayAfter p commands).nanos ≤ (delayAfter p (commands ++ later)).nanos) ∧
      (p.initial.nanos ≤ p.most.nanos →
        p.initial.nanos ≤ (delayAfter p commands).nanos ∧
          (delayAfter p commands).nanos ≤ p.most.nanos) := by
  have closed : ∀ commands,
      (delayAfter p commands).nanos = p.bounded (p.unbounded (waits commands)) :=
    nanos_current_performAll p
  refine ⟨closed commands, fun later waitsOnly => ?_, fun inOrder => ?_⟩
  · rw [closed, closed]
    exact p.bounded_mono (p.unbounded_mono (waits_le_append waitsOnly commands))
  · rw [closed]
    exact ⟨le_max_left _ _, max_le inOrder (min_le_left _ _)⟩

/-- Twice the first delay is one nanosecond more than the greatest duration, which is the bound. -/
def steepPolicy : BackoffPolicy := ⟨.ofParts (2 ^ 63) 0, .ofNanos greatestNanos, .exponential⟩

/-- The delay stops at the greatest duration, and starts anew after a return. -/
theorem delays_in_closed_form_steepPolicy :
    (delayAfter steepPolicy [.next]).nanos = 2 ^ 64 * nanosPerSecond - 1 ∧
      (delayAfter steepPolicy [.next]).nanos ≤ (delayAfter steepPolicy [.next, .next]).nanos ∧
      (delayAfter steepPolicy [.next, .reset]).nanos = 2 ^ 63 * nanosPerSecond ∧
      (delayAfter steepPolicy [.next, .reset]).nanos ≤ greatestNanos := by
  obtain ⟨doubled, increases, -⟩ := delays_in_closed_form steepPolicy [.next]
  obtain ⟨anew, -, inBounds⟩ := delays_in_closed_form steepPolicy [.next, .reset]
  refine ⟨doubled.trans (by decide), increases [.next] (by decide), anew.trans (by decide),
    (inBounds (by decide)).2⟩

example : (List.range 5).map (fun k => (delayAfter .standard (.replicate k .next)).seconds) =
    [30, 60, 120, 150, 150] := by decide

end Backoff

end RouteFeed
