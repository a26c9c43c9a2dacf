/-
How numbers are spelt as arguments.

Gas is paid for every byte of a payload, and a contract may take an argument as the bytes that it
spells; so a number must not be written with zeros in front, and not in two ways.  It is written
with as few bytes as it has, zero with one, and all digits are in lower case.  Therefore no other
spelling is shorter, numbers are known from their spellings, and even their order is.
-/
import Mathlib.Data.String.Basic
import ShardClient.Proofs.Transaction.Moved

namespace ShardClient

namespace Hex

/-- Texts are in the order of the bytes that they stand for. -/
theorem encode_lt_encode {bs cs : Bytes} : encode bs < encode cs ↔ bs < cs := by
  rw [String.lt_iff_toList_lt, encode, encode, String.toList_ofList, String.toList_ofList,
    chars_lt_chars]

theorem length_encode (bs : Bytes) : (encode bs).length = 2 * bs.length := by
  rw [encode, String.length_ofList, length_chars]

/-- Only a byte that is zero is written with two zeros. -/
theorem head?_of_zeros {bs : Bytes} (h : ['0', '0'] <+: chars bs) : bs.head? = some 0 := by
  cases bs with
  | nil => simp [chars] at h
  | cons b bs =>
    have hb := b.toNat_lt
    have hdigits : HexDigit.lower (b.toNat / 16) = HexDigit.lower 0 ∧
        HexDigit.lower (b.toNat % 16) = HexDigit.lower 0 := by
      rw [chars, List.flatMap_cons] at h
      obtain ⟨hhigh, h⟩ := List.cons_prefix_cons.1 h
      exact ⟨hhigh.symm, (List.cons_prefix_cons.1 h).1.symm⟩
    rw [lower_eq_lower (by omega) (by omega), lower_eq_lower (by omega) (by omega)] at hdigits
    have hzero : b.toNat = 0 := by omega
    exact congrArg some (UInt8.toNat_inj.1 hzero)

end Hex

namespace Payload

/-- The text spells the number: it is not empty, and its digits, of either case, are those of bytes
that stand for the number. -/
def Spells (s : String) (n : Amount) : Prop :=
  s ≠ "" ∧ natural? (Utf8.encode s) = some n.toNat

/-- What spells a number are the digits of bytes that stand for it. -/
theorem Spells.exists_bytes {s : String} {n : Amount} (h : Spells s n) :
    ∃ bs, bs ≠ [] ∧ Bytes.toNatBE bs = n.toNat ∧ s.length = 2 * bs.length ∧
      ((∀ c ∈ s.toList, HexDigit.IsLower c) → s = Hex.encode bs) := by
  obtain ⟨hne, hread⟩ := h
  rw [natural?] at hread
  cases hdecode : Hex.decode (Utf8.encode s) with
  | error e =>
    rw [hdecode] at hread
    cases hread
  | ok bs =>
    rw [hdecode] at hread
    obtain ⟨hlength, hlower⟩ := Hex.of_decode hdecode
    refine ⟨bs, ?_, Option.some.inj hread, hlength, hlower⟩
    rintro rfl
    exact hne (String.length_eq_zero_iff.1 hlength)

/-- The text is the canonical spelling of the number. -/
structure Canonical (s : String) (n : Amount) : Prop where
  lower : ∀ c ∈ s.toList, HexDigit.IsLower c
  even : s.length % 2 = 0
  length : 0 < s.length ∧ s.length ≤ 32
  spells : Spells s n
  /-- The first byte is zero only for zero. -/
  zero : ['0', '0'] <+: s.toList → n = 0
  /-- No text that spells the number is shorter, and none of the same length is in lower case. -/
  shortest : ∀ t, Spells t n → s.length ≤ t.length ∧
    (t.length = s.length → (∀ c ∈ t.toList, HexDigit.IsLower c) → t = s)

theorem canonical_unsigned (n : Amount) : Canonical (unsigned n) n := by
  obtain ⟨bs, hhex, hbs, hminimal⟩ := unsigned_eq n
  have hspells := natural?_unsigned n
  rw [hhex] at hspells ⊢
  have hchars : (Hex.encode bs).toList = Hex.chars bs := String.toList_ofList
  have hlength := Hex.length_encode bs
  have hpos : 0 < bs.length := List.length_pos_iff.2 hminimal.nonempty
  have hle : bs.length ≤ 16 := by
    refine Nat.le_of_not_lt fun hlt => ?_
    have hpow : 256 ^ 16 ≤ n.toNat := hbs ▸ hminimal.pow_le (by omega) hlt
    have hbound := n.isLt
    omega
  have hne : Hex.encode bs ≠ "" := by
    intro hempty
    rw [hempty, String.length_empty] at hlength
    omega
  refine ⟨hchars ▸ Hex.isLower_of_mem_chars, by omega, by omega, ⟨hne, hspells⟩,
    fun hzeros => ?_, fun t ht => ?_⟩
  · have hsingle := hminimal.zero (Hex.head?_of_zeros (hchars ▸ hzeros))
    rw [hsingle] at hbs
    exact BitVec.eq_of_toNat_eq hbs.symm
  · obtain ⟨cs, hcs, hnumber, htlength, hlower⟩ := ht.exists_bytes
    have hshort := hminimal.length_le hcs (hnumber.trans hbs.symm)
    refine ⟨by omega, fun hsame ht => ?_⟩
    rw [hlower ht, Bytes.eq_of_toNatBE_eq (by omega) (hnumber.trans hbs.symm)]

/-- **Numbers are spelt canonically**: in as few digits as possible, which are all in lower case.
No two numbers are spelt alike, and of two numbers the one with the shorter spelling is smaller, or
at equal length the one whose spelling comes first. -/
theorem numbers_spelt_canonically :
    (∀ n : Amount, Canonical (unsigned n) n) ∧
    (∀ m n : Amount, unsigned m = unsigned n → m = n) ∧
    ∀ m n : Amount, m < n ↔ (unsigned m).length < (unsigned n).length ∨
      (unsigned m).length = (unsigned n).length ∧ unsigned m < unsigned n := by
  refine ⟨canonical_unsigned, fun m n h => ?_, fun m n => ?_⟩
  · have hm := amount?_unsigned m
    rw [h, amount?_unsigned] at hm
    exact (Option.some.inj hm).symm
  · obtain ⟨bs, hm, hbs, hbsmin⟩ := unsigned_eq m
    obtain ⟨cs, hn, hcs, hcsmin⟩ := unsigned_eq n
    have horder := hbsmin.toNatBE_lt_iff hcsmin
    rw [hbs, hcs] at horder
    rw [hm, hn, Hex.length_encode, Hex.length_encode, Hex.encode_lt_encode, BitVec.lt_def, horder,
      Nat.mul_lt_mul_left (by decide), Nat.mul_right_inj (by decide)]

end Payload

end ShardClient
