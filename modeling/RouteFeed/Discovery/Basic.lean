import RouteFeed.Backoff
import RouteFeed.Discovery.Admission
import RouteFeed.Discovery.Registry

/-!
# Discovery of chunks

Discovery asks the active catalogue for chunks and admits those that are new. It moves on in
*rounds*, one question each. In batch mode a round settles the matter: it brings chunks, or none, or
a failure. In live mode a round without new chunks, or with a failure that may go away, leads to a
wait and then to the next round.

What is remembered from one question to the next, that is the cursor and what has been admitted,
changes with answers only, never with failures.

## Main definitions

* `Discovery` — the catalogues and what is remembered
* `Discovery.start`, `Discovery.close` — between them questions are asked
* `Discovery.round` — asks one question
* `Discovery.fetch` — asks until the matter is settled
* `Discovery.fetchIn` — the same, in a program that may stop at a sum that leaves the range
-/

namespace RouteFeed

/-- Whether questions may be asked, and how the last one went. -/
inductive Standing where
  /-- Not started, or closed. -/
  | off
  /-- Started, and the last question was answered. -/
  | on
  /-- The start or the last question failed. -/
  | failing
deriving DecidableEq, Repr

/-- The name of a standing. -/
def Standing.name : Standing → String
  | off => "Off"
  | on => "On"
  | failing => "Error"

/-- What a round leads to. -/
inductive Round where
  /-- The matter is settled, by chunks that are new or by a failure. -/
  | settled (result : Except FeedError (List Chunk))
  /-- The next round comes after a wait. -/
  | waiting (delay : Duration)

/-- The catalogues of a feed, and what is remembered of their answers. -/
structure Discovery (κ : Type) where
  /-- The catalogues. -/
  registry : Registry κ
  /-- Whether to wait for chunks when there are none. -/
  live : Bool := false
  /-- The delays between questions. -/
  backoff : Backoff := .ofPolicy .standard
  /-- Whether questions may be asked. -/
  standing : Standing := .off
  /-- The place in the active catalogue. -/
  cursor : Cursor := .start
  /-- What has been admitted. -/
  admission : Admission := {}

namespace Discovery

variable {κ : Type}

/-- The discovery in catalogues of which the first is active. -/
def ofList (table : List κ) : Discovery κ := { registry := .ofList table }

/-- Waits for chunks from now on. -/
def setLive (d : Discovery κ) : Discovery κ := { d with live := true }

/-- Starts a policy for delays. -/
def setBackoff (d : Discovery κ) (policy : BackoffPolicy) : Discovery κ :=
  { d with backoff := .ofPolicy policy }

/-- Ends the time for questions. -/
def close (d : Discovery κ) : Discovery κ := { d with standing := .off }

/-- Remembers what an answer brings, and gives the chunks that are new. -/
def absorb (criteria : Criteria) (answer : Answer) (d : Discovery κ) :
    List Chunk × Discovery κ :=
  let (admitted, admission) := d.admission.offerAll criteria.ribPeriod? answer.chunks
  (admitted, { d with standing := .on, cursor := answer.next, admission := admission })

/-- Waits before the next round. -/
def wait (d : Discovery κ) : Round × Discovery κ :=
  let (delay, backoff) := d.backoff.next
  (.waiting delay, { d with backoff := backoff })

/-- What follows from a result of a question. -/
def conclude (criteria : Criteria) (result : Except FeedError Answer) (d : Discovery κ) :
    Round × Discovery κ :=
  match result with
  | .ok answer =>
    match d.absorb criteria answer with
    | ([], d) => if d.live then d.wait else (.settled (.ok []), d)
    | (admitted, d) => (.settled (.ok admitted), { d with backoff := d.backoff.reset })
  | .error e =>
    if d.live ∧ e.isTransient then d.wait
    else (.settled (.error e), { d with standing := .failing })

/-- The failure of a question before the start. -/
def notStarted : FeedError := .misconfigured "data interface not started"

variable [Catalogue κ]

/-- Checks and starts the active catalogue. -/
def start (d : Discovery κ) : Except FeedError Unit × Discovery κ :=
  match d.registry.current? with
  | none => (.error (.misconfigured "no data interface selected"), d)
  | some k =>
    match Catalogue.validate k with
    | .error e => (.error e, { d with standing := .failing })
    | .ok () =>
      let (result, k) := Catalogue.start k
      let standing := match result with
        | .ok () => Standing.on
        | .error _ => .failing
      (result, { d with registry := d.registry.replaceCurrent k, standing := standing })

/-- Asks one question. -/
def round (criteria : Criteria) (d : Discovery κ) : Round × Discovery κ :=
  match d.standing, d.registry.current? with
  | .off, _ | _, none => (.settled (.error notStarted), d)
  | _, some k =>
    let (result, k) := Catalogue.query k criteria d.cursor
    { d with registry := d.registry.replaceCurrent k }.conclude criteria result

/-- Asks until the matter is settled, in at most so many rounds; none if it is not settled by
then. -/
def fetch (criteria : Criteria) : Nat → Discovery κ →
    Option (Except FeedError (List Chunk)) × Discovery κ
  | 0, d => (none, d)
  | rounds + 1, d =>
    match d.round criteria with
    | (.settled result, d) => (some result, d)
    | (.waiting _, d) => fetch criteria rounds d

omit [Catalogue κ] in
/-- Whether a program that is built in a given way has stopped at a sum. -/
def hasStopped (build : Build) (d : Discovery κ) : Bool :=
  build = .checked ∧ d.admission.overflowed

/-- What a call comes to in a program that is built in a given way; none if the program has
stopped. -/
def fetchIn (build : Build) (criteria : Criteria) (rounds : Nat) (d : Discovery κ) :
    Option (Option (Except FeedError (List Chunk)) × Discovery κ) :=
  let called := d.fetch criteria rounds
  if called.2.hasStopped build then none else some called

end Discovery

end RouteFeed
