import RouteFeed.AsPath
import RouteFeed.Net.Block
import RouteFeed.Timestamp.Rounding

/-!
# Elements

An element says that a peer announces a block of addresses, or withdraws it.

## Main definitions

* `Action` — announcement or withdrawal
* `Origin` — how the route came into being
* `Element` — one announcement or withdrawal of one block
-/

namespace RouteFeed

/-- What a peer does with a block. -/
inductive Action where
  /-- The peer offers a route to the block. -/
  | announce
  /-- The peer has no route to the block any more. -/
  | withdraw
deriving DecidableEq, Repr

/-- How a route came into being. -/
inductive Origin where
  /-- Inside the first system. -/
  | interior
  /-- From an exterior protocol. -/
  | exterior
  /-- In some other way. -/
  | incomplete
deriving DecidableEq, Repr

/-- The name of a way to come into being. -/
def Origin.name : Origin → String
  | interior => "IGP"
  | exterior => "EGP"
  | incomplete => "INCOMPLETE"

/-- One announcement or withdrawal of one block. -/
structure Element where
  /-- When it happened. -/
  time : Timestamp := ⟨0⟩
  /-- What happened. -/
  action : Action := .announce
  /-- The address of the peer. -/
  peerAddress : Address := .unspecified
  /-- The system of the peer. -/
  peer : UInt32 := 0
  /-- The block that the element is about. -/
  block : Block := .everything
  /-- The path of the route. -/
  path? : Option AsPath := none
  /-- The systems that the route starts from. -/
  origins? : Option (List UInt32) := none
  /-- How the route came into being. -/
  origin? : Option Origin := none
  /-- The address that traffic is sent to. -/
  nextHop? : Option Address := none
  /-- The preference inside the system of the peer. -/
  localPreference? : Option UInt32 := none
  /-- The preference among several links between two systems. -/
  discriminator? : Option UInt32 := none
deriving DecidableEq

end RouteFeed
