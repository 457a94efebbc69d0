import RouteFeed.Duration.Basic

/-!
# Backoff

Between two questions that bring nothing new a live feed waits. The delay grows from one wait to the
next as its policy says, within the bounds of the policy, until there is news.

## Main definitions

* `Growth`, `BackoffPolicy` — how delays grow, and their bounds
* `Backoff` — a policy and the delay that comes next
* `Backoff.next`, `Backoff.reset` — the delay to wait now, and the return to the first
-/

namespace RouteFeed

/-- How a delay grows. -/
inductive Growth where
  /-- Not at all. -/
  | fixed
  /-- By the same step each time. -/
  | linear (step : Duration)
  /-- To twice its length. -/
  | exponential
deriving DecidableEq

/-- How delays grow, and their bounds. -/
structure BackoffPolicy where
  /-- The first delay, which no later one falls below. -/
  initial : Duration
  /-- The delay that no later one exceeds, unless the first does. -/
  most : Duration
  /-- How delays grow. -/
  growth : Growth
deriving DecidableEq

namespace BackoffPolicy

/-- Half a minute, growing to two and a half minutes. -/
def standard : BackoffPolicy := ⟨.ofParts 30 0, .ofParts 150 0, .exponential⟩

/-- The same delay each time. -/
def fixed (delay : Duration) : BackoffPolicy := ⟨delay, delay, .fixed⟩

/-- The delay that follows a delay, before the bounds are applied. -/
def grow (p : BackoffPolicy) (d : Duration) : Duration :=
  match p.growth with
  | .fixed => p.initial
  | .linear step => d.add step
  | .exponential => d.double

/-- A delay, brought into the bounds. -/
def clamp (p : BackoffPolicy) (d : Duration) : Duration := (d.shorter p.most).longer p.initial

end BackoffPolicy

/-- A policy and the delay that comes next. -/
structure Backoff where
  /-- The policy. -/
  policy : BackoffPolicy
  /-- The delay that comes next. -/
  current : Duration
deriving DecidableEq

namespace Backoff

/-- The start of a policy. -/
def ofPolicy (policy : BackoffPolicy) : Backoff := ⟨policy, policy.initial⟩

/-- The delay to wait now, and what follows it. -/
def next (b : Backoff) : Duration × Backoff :=
  (b.current, { b with current := b.policy.clamp (b.policy.grow b.current) })

/-- Back to the first delay. -/
def reset (b : Backoff) : Backoff := { b with current := b.policy.initial }

end Backoff

end RouteFeed
