import Mathlib.Data.Set.Basic
import RouteFeed.Net.Block
import RouteFeed.Proofs.Timestamp.Order

/-!
# Blocks as sets of addresses

A block stands for all addresses of its kind that start with the bits that count. One block covers
another exactly if it has all addresses of the other; in particular blocks of different kinds never
cover each other.

## Main definitions

* `Block.addresses` — the addresses of a block

## Main results

* `Block.covers_iff_subset` — covering is inclusion of the sets of addresses
-/

namespace RouteFeed.Block

variable {outer inner : Block}

/-- The addresses of a block: those of its kind that start with the bits that count. -/
def addresses (b : Block) : Set Address :=
  {a | a.family = b.address.family ∧
    a.value / twoTo (b.address.family.width - b.length) = b.networkBits}

/-- Host bits or not, the address that a block is written with is one of its addresses. -/
theorem address_mem_addresses (b : Block) : b.address ∈ b.addresses := ⟨rfl, rfl⟩

theorem family_eq_of_subset (subset : inner.addresses ⊆ outer.addresses) :
    inner.address.family = outer.address.family :=
  (subset inner.address_mem_addresses).1

/-- The first bits of a number are the first of more of its first bits. -/
theorem div_twoTo_sub {width few many : ℕ} (value : ℕ) (le : few ≤ many) (bounded : many ≤ width) :
    value / twoTo (width - few) = value / twoTo (width - many) / twoTo (many - few) := by
  rw [Nat.div_div_eq_div_mul, ← twoTo_add, Nat.sub_add_sub_cancel bounded le]

/-- As many bits count as the length says. -/
theorem networkBits_lt (b : Block) : b.networkBits < twoTo b.length := by
  refine Nat.div_lt_of_lt_mul ?_
  rw [← twoTo_add, Nat.sub_add_cancel b.length_le]
  exact b.address.value_lt

/-- An address of a block, by the bits behind those that count. -/
theorem exists_mem_addresses (b : Block) {host : ℕ}
    (small : host < twoTo (b.address.family.width - b.length)) : ∃ a ∈ b.addresses,
      a.value = b.networkBits * twoTo (b.address.family.width - b.length) + host := by
  have size : b.networkBits * twoTo (b.address.family.width - b.length) + host <
      twoTo b.address.family.width := by
    have room := Nat.mul_le_mul_right (twoTo (b.address.family.width - b.length)) b.networkBits_lt
    rw [← twoTo_add, Nat.add_sub_cancel' b.length_le, Nat.succ_mul] at room
    omega
  refine ⟨⟨b.address.family, _, size⟩, ⟨rfl, ?_⟩, rfl⟩
  show (b.networkBits * twoTo _ + host) / twoTo _ = b.networkBits
  rw [Nat.mul_comm, Nat.mul_add_div (twoTo_pos _), Nat.div_eq_of_lt small, Nat.add_zero]

/-- A block with all addresses of another has no more bits that count. -/
theorem length_le_of_subset (subset : inner.addresses ⊆ outer.addresses) :
    outer.length ≤ inner.length := by
  have family := family_eq_of_subset subset
  have bounded := outer.length_le
  by_contra longer
  -- two addresses of the inner block that differ in the last bit that counts in the outer one
  have small : twoTo (outer.address.family.width - outer.length) <
      twoTo (inner.address.family.width - inner.length) := by
    rw [family]
    exact Nat.pow_lt_pow_right (by decide) (by omega)
  obtain ⟨a, ha, first⟩ := inner.exists_mem_addresses (twoTo_pos _)
  obtain ⟨a', ha', second⟩ := inner.exists_mem_addresses small
  have same := (subset ha).2.trans (subset ha').2.symm
  rw [first, second, Nat.add_zero, Nat.add_div_right _ (twoTo_pos _)] at same
  exact Nat.ne_of_lt (Nat.lt_succ_self _) same

theorem covers_iff : outer.covers inner ↔ outer.address.family = inner.address.family ∧
    outer.length ≤ inner.length ∧
      outer.networkBits = inner.networkBits / twoTo (inner.length - outer.length) := by
  simp [covers, and_assoc]

/-- One block covers another if it has all addresses of the other, and only then. -/
theorem covers_iff_subset : outer.covers inner ↔ inner.addresses ⊆ outer.addresses := by
  rw [covers_iff]
  constructor
  · rintro ⟨family, le, bits⟩ a ⟨same, starts⟩
    refine ⟨same.trans family.symm, ?_⟩
    rw [family, div_twoTo_sub a.value le inner.length_le, starts, bits]
  · intro subset
    obtain ⟨family, starts⟩ := subset inner.address_mem_addresses
    have le := length_le_of_subset subset
    refine ⟨family.symm, le, ?_⟩
    rw [← starts, ← family, div_twoTo_sub inner.address.value le inner.length_le]
    rfl

end RouteFeed.Block
