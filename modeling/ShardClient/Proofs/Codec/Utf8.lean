/-
UTF-8 loses nothing: reading what was written gives the text back.

A character is written as one to four bytes, and one step of reading takes just these bytes
and yields just this character.  The four lengths are four cases; in each the numbers behind
the bytes are put together again by division with remainder.  No other bytes are looked at, so
the rest of the text can be anything.
-/
import ShardClient.Codec.Utf8

namespace ShardClient

namespace Utf8

theorem continuation?_ofNat (n : Nat) (h : n < 64) :
    continuation? (UInt8.ofNat (n + 0x80)) = some n := by
  have hn : (UInt8.ofNat (n + 0x80)).toNat = n + 0x80 := by
    rw [UInt8.toNat_ofNat']; omega
  unfold continuation?
  rw [hn, if_pos (by omega)]
  simp

theorem found_toNat (c : Char) (size : Nat) : Step.found c.val.toNat size = ⟨some c, size⟩ := by
  have : Char.ofNat c.val.toNat = c := Char.ofNat_toNat c
  rw [Step.found, this]

/-- A code point is no surrogate. -/
theorem val_valid (c : Char) :
    c.val.toNat < 0xd800 ∨ (0xdfff < c.val.toNat ∧ c.val.toNat < 0x110000) := c.valid

/-- One step reads a character back, whatever follows it. -/
theorem step_encodeChar (c : Char) (rest : Bytes) :
    ∃ b bs, String.utf8EncodeChar c = b :: bs ∧ step b (bs ++ rest) = ⟨some c, bs.length + 1⟩ := by
  have hv := val_valid c
  generalize hn : c.val.toNat = n at hv
  have hfound : ∀ size, Step.found n size = ⟨some c, size⟩ := fun size => hn ▸ found_toNat c size
  unfold String.utf8EncodeChar
  simp only [hn]
  by_cases h1 : n ≤ 0x7f
  · refine ⟨UInt8.ofNat n, [], by rw [if_pos h1], ?_⟩
    have hb : (UInt8.ofNat n).toNat = n := by rw [UInt8.toNat_ofNat']; omega
    simp only [step, hb, if_pos (show n < 0x80 by omega)]
    exact hfound 1
  by_cases h2 : n ≤ 0x7ff
  · refine ⟨_, _, by rw [if_neg h1, if_pos h2], ?_⟩
    have hb : (UInt8.ofNat (n / 64 % 0x20 + 0xc0)).toNat = n / 64 + 0xc0 := by
      rw [UInt8.toNat_ofNat']; omega
    have hlead : 0xc2 ≤ n / 64 + 0xc0 ∧ n / 64 + 0xc0 ≤ 0xdf := by omega
    simp only [step, hb, if_neg (show ¬n / 64 + 0xc0 < 0x80 by omega), if_pos hlead, step2,
      List.cons_append, List.head?_cons, Option.bind_some,
      continuation?_ofNat _ (show n % 0x40 < 64 by omega)]
    rw [show (n / 64 + 0xc0 - 0xc0) * 0x40 + n % 0x40 = n by omega]
    exact hfound 2
  by_cases h3 : n ≤ 0xffff
  · refine ⟨_, _, by rw [if_neg h1, if_neg h2, if_pos h3], ?_⟩
    have hb : (UInt8.ofNat (n / 4096 % 0x10 + 0xe0)).toNat = n / 4096 + 0xe0 := by
      rw [UInt8.toNat_ofNat']; omega
    have hc : (UInt8.ofNat (n / 64 % 0x40 + 0x80)).toNat = n / 64 % 0x40 + 0x80 := by
      rw [UInt8.toNat_ofNat']; omega
    have hlead : 0xe0 ≤ n / 4096 + 0xe0 ∧ n / 4096 + 0xe0 ≤ 0xef := by omega
    have hsecond : (if n / 4096 + 0xe0 = 0xe0 then 0xa0 else 0x80) ≤ n / 64 % 0x40 + 0x80 ∧
        n / 64 % 0x40 + 0x80 ≤ (if n / 4096 + 0xe0 = 0xed then 0x9f else 0xbf) := by
      constructor <;> split <;> omega
    simp only [step, hb, if_neg (show ¬n / 4096 + 0xe0 < 0x80 by omega),
      if_neg (show ¬(0xc2 ≤ n / 4096 + 0xe0 ∧ n / 4096 + 0xe0 ≤ 0xdf) by omega), if_pos hlead,
      step3, List.cons_append, hc, if_pos hsecond, List.head?_cons, Option.bind_some,
      continuation?_ofNat _ (show n % 0x40 < 64 by omega)]
    rw [show (n / 4096 + 0xe0 - 0xe0) * 0x1000 + (n / 64 % 0x40 + 0x80 - 0x80) * 0x40 + n % 0x40
      = n by omega]
    exact hfound 3
  · refine ⟨_, _, by rw [if_neg h1, if_neg h2, if_neg h3], ?_⟩
    have hb : (UInt8.ofNat (n / 262144 % 0x08 + 0xf0)).toNat = n / 262144 + 0xf0 := by
      rw [UInt8.toNat_ofNat']; omega
    have hc : (UInt8.ofNat (n / 4096 % 0x40 + 0x80)).toNat = n / 4096 % 0x40 + 0x80 := by
      rw [UInt8.toNat_ofNat']; omega
    have hlead : 0xf0 ≤ n / 262144 + 0xf0 ∧ n / 262144 + 0xf0 ≤ 0xf4 := by omega
    have hsecond : (if n / 262144 + 0xf0 = 0xf0 then 0x90 else 0x80) ≤ n / 4096 % 0x40 + 0x80 ∧
        n / 4096 % 0x40 + 0x80 ≤ (if n / 262144 + 0xf0 = 0xf4 then 0x8f else 0xbf) := by
      constructor <;> split <;> omega
    simp only [step, hb, if_neg (show ¬n / 262144 + 0xf0 < 0x80 by omega),
      if_neg (show ¬(0xc2 ≤ n / 262144 + 0xf0 ∧ n / 262144 + 0xf0 ≤ 0xdf) by omega),
      if_neg (show ¬(0xe0 ≤ n / 262144 + 0xf0 ∧ n / 262144 + 0xf0 ≤ 0xef) by omega),
      if_pos hlead, step4, List.cons_append, hc, if_pos hsecond, List.head?_cons, List.tail_cons,
      Option.bind_some, continuation?_ofNat _ (show n / 64 % 0x40 < 64 by omega),
      continuation?_ofNat _ (show n % 0x40 < 64 by omega)]
    rw [show (n / 262144 + 0xf0 - 0xf0) * 0x40000 + (n / 4096 % 0x40 + 0x80 - 0x80) * 0x1000 +
      n / 64 % 0x40 * 0x40 + n % 0x40 = n by omega]
    exact hfound 4

/-- The bytes of a character that is not below 128 are not below 128 either. -/
theorem le_of_mem_encodeChar {c : Char} {b : UInt8} (hc : 0x7f < c.val.toNat)
    (hb : b ∈ String.utf8EncodeChar c) : 0x80 ≤ b.toNat := by
  have hbyte : ∀ {k : Nat}, 0x80 ≤ k → k < 0x100 → b = UInt8.ofNat k → 0x80 ≤ b.toNat := by
    rintro k hk hlt rfl
    rwa [UInt8.toNat_ofNat_of_lt' hlt]
  unfold String.utf8EncodeChar at hb
  generalize c.val.toNat = n at hc hb
  simp only [if_neg (Nat.not_le_of_lt hc)] at hb
  split at hb
  · simp only [List.mem_cons, List.not_mem_nil, or_false] at hb
    rcases hb with h | h <;> exact hbyte (by omega) (by omega) h
  split at hb
  · simp only [List.mem_cons, List.not_mem_nil, or_false] at hb
    rcases hb with h | h | h <;> exact hbyte (by omega) (by omega) h
  · simp only [List.mem_cons, List.not_mem_nil, or_false] at hb
    rcases hb with h | h | h | h <;> exact hbyte (by omega) (by omega) h

/-- A byte below 128 in a text is a character of it. -/
theorem ofNat_mem_of_mem_encode {b : UInt8} {s : String} (hb : b.toNat < 0x80)
    (h : b ∈ encode s) : Char.ofNat b.toNat ∈ s.toList := by
  obtain ⟨c, hc, hmem⟩ := List.mem_flatMap.1 h
  have hascii : c.val.toNat ≤ 0x7f := Nat.le_of_not_lt fun hlarge =>
    Nat.not_le_of_lt hb (le_of_mem_encodeChar hlarge hmem)
  have hone : String.utf8EncodeChar c = [UInt8.ofNat c.val.toNat] := if_pos hascii
  rw [hone, List.mem_singleton] at hmem
  have hvalue : b.toNat = c.val.toNat := by
    rw [hmem, UInt8.toNat_ofNat_of_lt' (Nat.lt_of_le_of_lt hascii (by decide))]
  have hchar : Char.ofNat c.val.toNat = c := Char.ofNat_toNat c
  rwa [hvalue, hchar]

/-- Bytes that a step has used are passed over. -/
theorem stepsFrom_append (bs rest : Bytes) : stepsFrom bs.length (bs ++ rest) = stepsFrom 0 rest := by
  induction bs with
  | nil => rfl
  | cons b bs ih => exact ih

theorem stepsFrom_encodeChar (c : Char) (rest : Bytes) :
    stepsFrom 0 (String.utf8EncodeChar c ++ rest) = some c :: stepsFrom 0 rest := by
  obtain ⟨b, bs, hc, hstep⟩ := step_encodeChar c rest
  rw [hc, List.cons_append, stepsFrom, hstep]
  exact congrArg (some c :: ·) (stepsFrom_append bs rest)

theorem stepsFrom_encode (cs : List Char) :
    stepsFrom 0 (cs.flatMap String.utf8EncodeChar) = cs.map some := by
  induction cs with
  | nil => rfl
  | cons c cs ih => rw [List.flatMap_cons, stepsFrom_encodeChar, ih, List.map_cons]

/-- **Reading what was written gives the text back.** -/
theorem decode?_encode (s : String) : decode? (encode s) = some s := by
  have hmap : (s.toList.map some).mapM id = some s.toList := by
    induction s.toList with
    | nil => rfl
    | cons c cs ih => simp [List.mapM_cons, ih]
  rw [decode?, encode, stepsFrom_encode, hmap]
  simp

end Utf8

end ShardClient
