/-
The last byte of an address tells its shard.

Only system addresses are set apart.  For all others just enough binary digits of the last byte
are taken to count the shards, or one less where the shard that they name does not exist.  These
are never more digits than a word of 32 has, so the masks can be made by shifting in such words.
-/
import ShardClient.Proofs.Sharding.Home

namespace ShardClient

namespace Sharding

variable {s : Sharding} {a : Address}

/-! ### Binary digits -/

theorem bitLength_le_iff {n k : Nat} : bitLength n ≤ k ↔ n < 2 ^ k := by
  unfold bitLength
  by_cases h : n = 0
  · rw [if_pos h, h]
    exact ⟨fun _ => Nat.two_pow_pos k, fun _ => Nat.zero_le k⟩
  · rw [if_neg h, Nat.succ_le_iff]
    exact Nat.log2_lt h

/-- Shifting one in a word by less digits than it has is a power of two. -/
theorem toNat_one_shiftLeft {k : Nat} (h : k < 32) :
    ((1 : UInt32) <<< UInt32.ofNat k).toNat = 2 ^ k := by
  have hpow : 2 ^ k < 2 ^ 32 := Nat.pow_lt_pow_right (by omega) h
  have hk : (UInt32.ofNat k).toNat = k := UInt32.toNat_ofNat_of_lt' (Nat.lt_trans h (by decide))
  rw [UInt32.toNat_shiftLeft, hk, Nat.mod_eq_of_lt h, UInt32.toNat_one, Nat.one_shiftLeft,
    Nat.mod_eq_of_lt hpow]

/-! ### Shards -/

theorem toNat_count_ofCount (count : UInt32) : (ofCount count).count.toNat = max 1 count.toNat := by
  unfold ofCount
  by_cases h : 0 < count.toNat
  · rw [dif_pos h]
    exact (Nat.max_eq_right h).symm
  · rw [dif_neg h]
    exact (Nat.max_eq_left (by omega)).symm

theorem onMetachain_iff :
    onMetachain a = true ↔ a = Address.zero ∨ Address.metachainStart <+: a.bytes := by
  unfold onMetachain
  rw [Bool.or_eq_true, decide_eq_true_eq, List.isPrefixOf_iff_prefix]

/-- Off the metachain the last byte leads home. -/
theorem toNat_home (h : ¬onMetachain a = true) :
    (s.home a).toNat = s.shardOfByte a.lastByte := by
  unfold home
  rw [if_neg h]
  exact toNat_ofNat_of_lt (s.shardOfByte_lt a.lastByte)

/-- No shard has the number of the metachain. -/
theorem home_eq_metachain_iff : s.home a = metachain ↔ onMetachain a = true := by
  constructor
  · intro hhome
    by_contra h
    have hlt := s.shardOfByte_lt a.lastByte
    rw [← toNat_home h, hhome] at hlt
    have hcount := s.count.toNat_lt
    have hmeta : metachain.toNat = 2 ^ 32 - 1 := rfl
    omega
  · intro h
    unfold home
    rw [if_pos h]

/-- The shard of a last byte is what its lowest digits name, if there is such a shard. -/
theorem shardOfByte_eq (s : Sharding) (last : UInt8) :
    let n := s.count.toNat
    let bits := bitLength (n - 1)
    s.shardOfByte last =
      if last.toNat % 2 ^ bits < n then last.toNat % 2 ^ bits else last.toNat % 2 ^ (bits - 1) := by
  intro n bits
  have hpos := s.count_pos
  unfold shardOfByte
  simp only [and_mask]
  by_cases h : last.toNat % 2 ^ bits < n
  · rw [if_pos h, if_neg (show ¬last.toNat % 2 ^ bits > n - 1 by omega)]
  · rw [if_neg h, if_pos (show last.toNat % 2 ^ bits > n - 1 by omega)]

/-- The address that ends with the given byte behind nines. -/
def endingWith (last : UInt8) : Address := ⟨⟨List.replicate 31 9 ++ [last], by simp⟩⟩

theorem lastByte_endingWith (last : UInt8) : (endingWith last).lastByte = last := rfl

theorem onMetachain_endingWith (last : UInt8) : ¬onMetachain (endingWith last) = true := by
  rw [onMetachain_iff, not_or]
  constructor
  · intro h
    have hbytes := congrArg (fun a : Address => a.bytes.head?) h
    exact absurd hbytes (by simp [endingWith, Address.zero])
  · rintro ⟨rest, h⟩
    exact absurd (congrArg List.head? h) (by simp [endingWith, Address.metachainStart])

/-- A shard whose number is that of a byte is the home of the addresses that end with the byte. -/
theorem toNat_home_endingWith {last : UInt8} (h : last.toNat < s.count.toNat) :
    (s.home (endingWith last)).toNat = last.toNat := by
  have hbits : last.toNat < 2 ^ bitLength (s.count.toNat - 1) := by
    have hle := bitLength_le_iff.1 (Nat.le_refl (bitLength (s.count.toNat - 1)))
    omega
  rw [toNat_home (onMetachain_endingWith last), lastByte_endingWith, shardOfByte_eq,
    Nat.mod_eq_of_lt hbits, if_pos h]

/-- **The last byte of an address tells its home**, for any number of shards up to `2 ^ 31`, where
none count as one.  On the metachain are the zero address and those with the beginning of system
addresses, and no others.  For all others take the least number of binary digits that count the
shards, which is less than a word has, so that shifting in words loses nothing: these digits of
the last byte name the shard if it exists, and otherwise they do without the highest.  So the home
is a shard that exists, it depends on nothing but the last byte, and each shard that a byte can
name is the home of some address. -/
theorem home_by_last_byte (count : UInt32) (h : count.toNat ≤ 2 ^ 31) :
    (∀ a, (ofCount count).home a = metachain ↔
      a = Address.zero ∨ Address.metachainStart <+: a.bytes) ∧
    let s := ofCount count
    let n := max 1 count.toNat
    let bits := bitLength (n - 1)
    (n ≤ 2 ^ bits ∧ ∀ k, n ≤ 2 ^ k → bits ≤ k) ∧
    (∀ k ≤ bits, k < 32 ∧ ((1 : UInt32) <<< UInt32.ofNat k).toNat = 2 ^ k) ∧
    (∀ a, s.home a ≠ metachain → (s.home a).toNat < n ∧
      (s.home a).toNat = if a.lastByte.toNat % 2 ^ bits < n then a.lastByte.toNat % 2 ^ bits
        else a.lastByte.toNat % 2 ^ (bits - 1)) ∧
    (∀ a b, s.home a ≠ metachain → s.home b ≠ metachain → a.lastByte = b.lastByte →
      s.home a = s.home b) ∧
    ∀ k < min n 256, ∃ a, s.home a ≠ metachain ∧ (s.home a).toNat = k := by
  refine ⟨fun a => home_eq_metachain_iff.trans onMetachain_iff, ?_⟩
  intro s n bits
  have hn : s.count.toNat = n := toNat_count_ofCount count
  have hhome : ∀ a, s.home a ≠ metachain → (s.home a).toNat = s.shardOfByte a.lastByte :=
    fun a ha => toNat_home fun hmeta => ha (home_eq_metachain_iff.2 hmeta)
  have hleast : ∀ k, n ≤ 2 ^ k ↔ bits ≤ k := by
    intro k
    have hpow := Nat.two_pow_pos k
    rw [bitLength_le_iff]
    omega
  have hbits : bits ≤ 31 := (hleast 31).1 (by omega)
  refine ⟨⟨(hleast bits).2 (Nat.le_refl bits), fun k => (hleast k).1⟩, ?_, ?_, ?_, ?_⟩
  · intro k hk
    exact ⟨by omega, toNat_one_shiftLeft (by omega)⟩
  · intro a ha
    have hshard := s.shardOfByte_eq a.lastByte
    simp only [hn] at hshard
    rw [hhome a ha]
    exact ⟨hn ▸ s.shardOfByte_lt a.lastByte, hshard⟩
  · intro a b ha hb hlast
    apply UInt32.toNat_inj.1
    rw [hhome a ha, hhome b hb, hlast]
  · intro k hk
    obtain ⟨hkn, hk256⟩ := Nat.lt_min.1 hk
    have hbyte : (UInt8.ofNat k).toNat = k := UInt8.toNat_ofNat_of_lt' hk256
    refine ⟨endingWith (UInt8.ofNat k), fun hmeta => ?_, ?_⟩
    · exact onMetachain_endingWith _ (home_eq_metachain_iff.1 hmeta)
    · rw [toNat_home_endingWith (by omega), hbyte]

/-- Among five shards the byte four names the last, and seven has to do without its highest digit.
The contract that issues tokens is on the metachain. -/
theorem home_by_last_byte_five_shards :
    (5 : UInt32).toNat ≤ 2 ^ 31 ∧ ((ofCount 5).home (endingWith 4)).toNat = 4 ∧
      ((ofCount 5).home (endingWith 7)).toNat = 3 ∧
      (ofCount 5).home Address.tokenSystem = metachain := by
  have hcount : (5 : UInt32).toNat ≤ 2 ^ 31 := by decide
  obtain ⟨hmeta, -, -, hhome, -⟩ := home_by_last_byte 5 hcount
  have hsafe : ∀ last, (ofCount 5).home (endingWith last) ≠ metachain :=
    fun last hapart => onMetachain_endingWith last (home_eq_metachain_iff.1 hapart)
  exact ⟨hcount, (hhome _ (hsafe 4)).2, (hhome _ (hsafe 7)).2,
    (hmeta Address.tokenSystem).2 (.inr (List.prefix_append _ _))⟩

end Sharding

end ShardClient
