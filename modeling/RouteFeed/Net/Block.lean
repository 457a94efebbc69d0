import RouteFeed.Net.Address

/-!
# Address blocks

A block is an address with the number of its leading bits that count. The bits behind them, the
*host bits*, are kept as they were written, so two texts may name the same block of addresses and
still be different values.

## Main definitions

* `Block` — an address and a length
* `Block.networkBits` — the leading bits that count
* `Block.covers` — every address of one block is in the other
* `Block.print`, `Block.read?` — the text of a block
-/

namespace RouteFeed

/-- An address of which only the leading bits count. -/
structure Block where
  /-- The address, host bits included. -/
  address : Address
  /-- The number of bits that count. -/
  length : Nat
  /-- No more bits count than there are. -/
  length_le : length ≤ address.family.width
deriving DecidableEq

namespace Block

/-- The bits that count, as a number. -/
def networkBits (b : Block) : Nat := b.address.value / twoTo (b.address.family.width - b.length)

/-- Every address of `inner` is in `outer`: they are of one kind, and the bits that count in `outer`
are the first of those that count in `inner`. -/
def covers (outer inner : Block) : Bool :=
  outer.address.family = inner.address.family && outer.length ≤ inner.length &&
    outer.networkBits = inner.networkBits / twoTo (inner.length - outer.length)

/-- The block of all short addresses. -/
def everything : Block := ⟨Address.unspecified, 0, Nat.zero_le _⟩

/-- The text of a block. -/
def print (b : Block) : String := b.address.print ++ "/" ++ Numeral.printNat b.length

/-- A block from its parts, if the length is not too great. -/
def ofParts? (address : Address) (length : Nat) : Option Block :=
  if h : length ≤ address.family.width then some ⟨address, length, h⟩ else none

/-- Reads a slash and a length, up to the end of the text. -/
def readLength? (most : Nat) (cs : List Char) : Option Nat := do
  match ← Address.readDigits? Numeral.digit? 10 most (← Address.readMark? '/' cs) with
  | (n, []) => some n
  | _ => none

/-- The block that a text writes. -/
def read? (text : String) : Option Block := do
  let (address, rest) ← Address.readLeading? text.toList
  let length ← readLength? (match address.family with | .v4 => 2 | .v6 => 3) rest
  ofParts? address length

end Block

end RouteFeed
