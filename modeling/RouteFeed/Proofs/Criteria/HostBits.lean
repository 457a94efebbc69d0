import RouteFeed.Proofs.Criteria.Selection

/-!
# Host bits

A block is written with host bits, but the addresses that it stands for are told by the others: by
the kind of address, the length, and the bits that count. Whether one block covers another is a
matter of addresses, so host bits do not show there. They show where two blocks have to be the same:
blocks that cover each other, and that a reader would take for one block, may still differ.

## Main definitions

* `Block.hostBits`, `Block.network` — the bits that do not count, and a block without them
* `Block.SameNetwork` — blocks that differ in host bits at most
* `BlockRelation.IgnoresHostBits` — a relation in which host bits do not show

## Main results

* `Block.addresses_eq_iff` — blocks with the same addresses
* `BlockRelation.ignores_host_bits` — which relations host bits show in, and how
-/

namespace RouteFeed

namespace Block

variable {b b' : Block}

/-- The bits behind those that count, as a number. -/
def hostBits (b : Block) : ℕ := b.address.value % twoTo (b.address.family.width - b.length)

/-- The block with all host bits zero. -/
def network (b : Block) : Block where
  address :=
    { family := b.address.family
      value := b.networkBits * twoTo (b.address.family.width - b.length)
      value_lt := Nat.lt_of_le_of_lt (Nat.div_mul_le_self _ _) b.address.value_lt }
  length := b.length
  length_le := b.length_le

/-- Two blocks differ in their host bits at most. -/
structure SameNetwork (b b' : Block) : Prop where
  family : b'.address.family = b.address.family
  length : b'.length = b.length
  networkBits : b'.networkBits = b.networkBits

theorem networkBits_network (b : Block) : b.network.networkBits = b.networkBits :=
  Nat.mul_div_cancel _ (twoTo_pos _)

theorem hostBits_network (b : Block) : b.network.hostBits = 0 := Nat.mul_mod_left _ _

theorem sameNetwork_network (b : Block) : b.SameNetwork b.network :=
  ⟨rfl, rfl, b.networkBits_network⟩

/-- Blocks have the same addresses if they differ in host bits at most, and only then. -/
theorem addresses_eq_iff : b'.addresses = b.addresses ↔ b.SameNetwork b' := by
  constructor
  · intro same
    have le := length_le_of_subset same.subset
    have ge := length_le_of_subset same.symm.subset
    obtain ⟨family, -, bits⟩ := covers_iff.mp (covers_iff_subset.mpr same.subset)
    refine ⟨family.symm, Nat.le_antisymm ge le, ?_⟩
    rw [Nat.sub_eq_zero_of_le ge] at bits
    exact (bits.trans (Nat.div_one _)).symm
  · rintro ⟨family, length, bits⟩
    unfold addresses
    rw [family, length, bits]

/-- An address is made up of the bits that count and the host bits. -/
theorem value_eq (b : Block) : b.address.value =
    twoTo (b.address.family.width - b.length) * b.networkBits + b.hostBits :=
  (Nat.div_add_mod _ _).symm

theorem eq_iff_sameNetwork : b' = b ↔ b.SameNetwork b' ∧ b'.hostBits = b.hostBits := by
  constructor
  · rintro rfl
    exact ⟨⟨rfl, rfl, rfl⟩, rfl⟩
  · rintro ⟨⟨family, length, bits⟩, host⟩
    have value : b'.address.value = b.address.value := by
      rw [value_eq, value_eq b, family, length, bits, host]
    obtain ⟨⟨f, v, bounded⟩, l, le⟩ := b
    obtain ⟨⟨f', v', bounded'⟩, l', le'⟩ := b'
    obtain rfl : f' = f := family
    obtain rfl : v' = v := value
    obtain rfl : l' = l := length
    rfl

end Block

namespace BlockRelation

variable {relation : BlockRelation} {wanted found : Block}

/-- Whether a relation holds depends on the kinds of address, the lengths and the bits that count
alone. -/
def IgnoresHostBits (relation : BlockRelation) : Prop :=
  ∀ wanted wanted' found found' : Block, wanted.SameNetwork wanted' → found.SameNetwork found' →
    relation.holds wanted' found' = relation.holds wanted found

/-- Blocks that are the same but for their host bits, each way. -/
theorem covering_and_covered_iff :
    covering.holds wanted found ∧ covered.holds wanted found ↔ wanted.SameNetwork found := by
  rw [holds_iff, holds_iff, ← Block.addresses_eq_iff, Set.Subset.antisymm_iff, and_comm]
  rfl

theorem exact_holds_iff :
    exact.holds wanted found ↔ wanted.SameNetwork found ∧ found.hostBits = wanted.hostBits := by
  rw [← Block.eq_iff_sameNetwork, holds, decide_eq_true_iff]

/-- All addresses of the short kind, written by one whose last bit is set. -/
def everyShort : Block := ⟨Address.ofNat .v4 1, 0, Nat.zero_le _⟩

/-- A block and what is left of it without its host bits are the same only if it has none. -/
theorem not_ignoresHostBits_exact : ¬ exact.IgnoresHostBits := by
  intro ignores
  have same := ignores everyShort everyShort everyShort everyShort.network ⟨rfl, rfl, rfl⟩
    everyShort.sameNetwork_network
  exact absurd same (by decide)

theorem ignoresHostBits_of_ne_exact (other : relation ≠ exact) : relation.IgnoresHostBits := by
  intro wanted wanted' found found' sameWanted sameFound
  -- all other relations are told by the addresses of the blocks
  rw [← Block.addresses_eq_iff] at sameWanted sameFound
  rw [Bool.eq_iff_iff, holds_iff, holds_iff]
  cases relation with
  | exact => exact absurd rfl other
  | covering => rw [Relates, Relates, sameWanted, sameFound]
  | covered => rw [Relates, Relates, sameWanted, sameFound]
  | either => rw [Relates, Relates, sameWanted, sameFound]

/-- **Host bits.** Host bits do not show in a relation of blocks unless it is that of being the
same. Two blocks are the same just if each of them covers the other and their host bits are the same,
too; so without their host bits they are the same just if each covers the other. -/
theorem ignores_host_bits (wanted found : Block) :
    (∀ relation : BlockRelation, relation.IgnoresHostBits ↔ relation ≠ exact) ∧
    (exact.holds wanted found ↔ (covering.holds wanted found ∧ covered.holds wanted found) ∧
      found.hostBits = wanted.hostBits) ∧
    (exact.holds wanted.network found.network ↔
      covering.holds wanted found ∧ covered.holds wanted found) := by
  refine ⟨fun relation => ⟨?_, ignoresHostBits_of_ne_exact⟩, ?_, ?_⟩
  · rintro ignores rfl
    exact not_ignoresHostBits_exact ignores
  · rw [covering_and_covered_iff, exact_holds_iff]
  · have covering := ignoresHostBits_of_ne_exact (show covering ≠ exact from nofun) _ _ _ _
      wanted.sameNetwork_network found.sameNetwork_network
    have covered := ignoresHostBits_of_ne_exact (show covered ≠ exact from nofun) _ _ _ _
      wanted.sameNetwork_network found.sameNetwork_network
    rw [← covering, ← covered, covering_and_covered_iff, exact_holds_iff,
      Block.hostBits_network, Block.hostBits_network]
    exact and_iff_left rfl

/-- The criterion `10.0.0.1/8` asks for another block than `10.0.0.0/8`, though each of them covers
the other and nothing but a host bit tells them apart. -/
theorem exact_holds_eq_false_of_host_bit : ∃ wanted found : Block,
    Block.read? "10.0.0.1/8" = some wanted ∧ Block.read? "10.0.0.0/8" = some found ∧
      wanted.network = found ∧ covering.holds wanted found ∧ covered.holds wanted found ∧
      exact.holds wanted found = false ∧ exact.holds wanted.network found = true := by
  refine ⟨⟨Address.ofNat .v4 0x0A000001, 8, by decide⟩, ⟨Address.ofNat .v4 0x0A000000, 8, by decide⟩,
    ?_, ?_, ?_, ?_, ?_, ?_, ?_⟩ <;> decide +kernel

end BlockRelation

end RouteFeed
