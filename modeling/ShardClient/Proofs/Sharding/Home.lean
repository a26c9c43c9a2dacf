/-
Where addresses are at home.

Every address is at home in one of the shards that the network has, or on the metachain.  The
bits taken from its last byte may name a shard that does not exist; without the highest of them
they name one that does, because that bit was needed to count the shards.
-/
import Mathlib.Algebra.Group.Nat.Defs
import Mathlib.Data.List.Nodup
import ShardClient.Sharding

namespace ShardClient

namespace Sharding

/-! ### Binary digits -/

theorem and_mask (n bits : Nat) : n &&& mask bits = n % 2 ^ bits := by
  unfold mask
  rw [Nat.one_shiftLeft, Nat.and_two_pow_sub_one_eq_mod]

/-- Without its highest digit a number is counted by a power of two that is not above it. -/
theorem two_pow_bitLength_pred_le {n : Nat} (h : n ≠ 0) : 2 ^ (bitLength n - 1) ≤ n := by
  unfold bitLength
  rw [if_neg h, Nat.add_sub_cancel]
  exact Nat.log2_self_le h

/-! ### Shards -/

/-- A last byte leads to a shard that exists. -/
theorem shardOfByte_lt (s : Sharding) (last : UInt8) : s.shardOfByte last < s.count.toNat := by
  have hpos := s.count_pos
  unfold shardOfByte
  simp only [and_mask]
  by_cases h : last.toNat % 2 ^ bitLength (s.count.toNat - 1) > s.count.toNat - 1
  · rw [if_pos h]
    have hcount : s.count.toNat - 1 ≠ 0 := by
      intro hzero
      simp [hzero, bitLength, Nat.mod_one] at h
    have hlt : last.toNat % 2 ^ (bitLength (s.count.toNat - 1) - 1)
        < 2 ^ (bitLength (s.count.toNat - 1) - 1) := Nat.mod_lt _ (Nat.two_pow_pos _)
    have hle := two_pow_bitLength_pred_le hcount
    omega
  · rw [if_neg h]
    omega

/-- The numbers of the shards of a network, behind that of the metachain. -/
def ids (s : Sharding) : List ShardId :=
  metachain :: (List.range s.count.toNat).map UInt32.ofNat

theorem toNat_ofNat_of_lt {s : Sharding} {n : Nat} (h : n < s.count.toNat) :
    (UInt32.ofNat n).toNat = n :=
  UInt32.toNat_ofNat_of_lt' (Nat.lt_trans h s.count.toNat_lt)

/-- No two of these numbers are equal; in particular no shard has that of the metachain. -/
theorem nodup_ids (s : Sharding) : s.ids.Nodup := by
  unfold ids
  rw [List.nodup_cons]
  constructor
  · intro hmem
    obtain ⟨n, hn, heq⟩ := List.mem_map.1 hmem
    rw [List.mem_range] at hn
    have hlast : n = metachain.toNat := by rw [← heq, toNat_ofNat_of_lt hn]
    have hcount := s.count.toNat_lt
    have hmeta : metachain.toNat = 2 ^ 32 - 1 := rfl
    omega
  · refine List.Nodup.map_on ?_ List.nodup_range
    intro x hx y hy heq
    rw [List.mem_range] at hx hy
    rw [← toNat_ofNat_of_lt hx, ← toNat_ofNat_of_lt hy, heq]

/-- **Every address is at home somewhere**: in a shard that exists, or on the metachain. -/
theorem home_mem_ids (s : Sharding) (a : Address) : s.home a ∈ s.ids := by
  unfold home ids
  by_cases h : onMetachain a = true
  · rw [if_pos h]
    exact List.mem_cons_self
  · rw [if_neg h]
    refine List.mem_cons_of_mem _ (List.mem_map_of_mem ?_)
    rw [List.mem_range]
    exact s.shardOfByte_lt a.lastByte

end Sharding

end ShardClient
