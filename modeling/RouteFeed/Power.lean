/-!
# Powers

Powers of two measure words and doubles, powers of ten measure decimal texts.

## Main definitions

* `twoTo`, `tenTo` — the powers of two and of ten
-/

namespace RouteFeed

/-- A power of two. -/
def twoTo (n : Nat) : Nat := Nat.pow 2 n

/-- A power of ten. -/
def tenTo (n : Nat) : Nat := Nat.pow 10 n

/-- Powers of two are positive. -/
theorem twoTo_pos (n : Nat) : 0 < twoTo n := Nat.pow_pos (by decide)

end RouteFeed
