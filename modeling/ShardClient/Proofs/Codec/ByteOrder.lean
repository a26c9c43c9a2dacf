/-
Texts are in the order of their bytes.

UTF-8 is made so that it keeps the order of characters: a longer spelling begins with a greater
byte, and spellings of one length are digits of the same number.  So texts that are sorted as
texts are sorted as bytes, and sorting may be reasoned about on either side.
-/
import Mathlib.Data.String.Basic
import ShardClient.Proofs.Codec.Utf8

namespace ShardClient

namespace Utf8

/-- The spelling of a smaller character comes first, whatever follows the two. -/
theorem encodeChar_lt {c d : Char} (h : c < d) (xs ys : Bytes) :
    String.utf8EncodeChar c ++ xs < String.utf8EncodeChar d ++ ys := by
  have hlt : c.val.toNat < d.val.toNat := h
  have hvalid := val_valid d
  generalize hn : c.val.toNat = n at hlt
  generalize hm : d.val.toNat = m at hlt hvalid
  have hbyte : ∀ i j : Nat, i < 256 → j < 256 → (UInt8.ofNat i < UInt8.ofNat j ↔ i < j) := by
    intro i j hi hj
    rw [UInt8.lt_iff_toNat_lt, UInt8.toNat_ofNat_of_lt' hi, UInt8.toNat_ofNat_of_lt' hj]
  have hsame : ∀ i j : Nat, i < 256 → j < 256 → (UInt8.ofNat i = UInt8.ofNat j ↔ i = j) := by
    intro i j hi hj
    rw [← UInt8.toNat_inj, UInt8.toNat_ofNat_of_lt' hi, UInt8.toNat_ofNat_of_lt' hj]
  -- A byte counts only if the bytes before it are the same, as with any digits.
  have hdigit : ∀ i j : Nat, i < j → i / 64 < j / 64 ∨ i / 64 = j / 64 ∧ i % 64 < j % 64 := by
    intro i j hij
    omega
  have hquarter : ∀ k : Nat, k / 64 / 64 = k / 4096 ∧ k / 4096 / 64 = k / 262144 := fun k =>
    ⟨Nat.div_div_eq_div_mul k 64 64, Nat.div_div_eq_div_mul k 4096 64⟩
  have hfourth := hdigit n m hlt
  have hthird := hdigit (n / 64) (m / 64)
  have hsecond := hdigit (n / 4096) (m / 4096)
  rw [(hquarter n).1, (hquarter m).1] at hthird
  rw [(hquarter n).2, (hquarter m).2] at hsecond
  have hfirst : n / 262144 % 8 = n / 262144 ∧ m / 262144 % 8 = m / 262144 := by omega
  unfold String.utf8EncodeChar
  simp only [hn, hm, hfirst.1, hfirst.2]
  split_ifs
  all_goals
    simp (disch := omega) only [List.cons_append, List.nil_append, List.cons_lt_cons_iff, hbyte,
      hsame]
    omega

theorem flatMap_encodeChar_lt {cs ds : List Char} (h : cs < ds) :
    cs.flatMap String.utf8EncodeChar < ds.flatMap String.utf8EncodeChar := by
  induction cs generalizing ds with
  | nil =>
    cases ds with
    | nil => exact absurd h (List.lt_irrefl _)
    | cons d ds =>
      obtain ⟨b, bs, hd, -⟩ := step_encodeChar d []
      rw [List.flatMap_cons, hd]
      exact List.nil_lt_cons ..
  | cons c cs ih =>
    cases ds with
    | nil => exact absurd h (List.not_lt_nil _)
    | cons d ds =>
      rw [List.flatMap_cons, List.flatMap_cons]
      rcases List.cons_lt_cons_iff.1 h with hlt | ⟨rfl, hlt⟩
      · exact encodeChar_lt hlt _ _
      · exact List.append_left_lt (ih hlt)

/-- **One text is before another if its bytes are.** -/
theorem encode_lt_encode {s t : String} : encode s < encode t ↔ s < t := by
  have hmono : ∀ {s t : String}, s < t → encode s < encode t := fun h =>
    flatMap_encodeChar_lt (String.lt_iff_toList_lt.1 h)
  constructor
  · intro h
    rcases lt_trichotomy s t with hlt | rfl | hgt
    · exact hlt
    · exact absurd h (List.lt_irrefl _)
    · exact absurd (hmono hgt) (List.lt_asymm h)
  · exact hmono

end Utf8

end ShardClient
