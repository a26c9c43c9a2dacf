/-
Hexadecimal text loses nothing.

A text of characters below 128 has one byte for each of them, so reading, which works on bytes,
meets the digits that were written, two for each byte.  Texts are in the order of the bytes that
they stand for.

Reading also accepts digits in upper case, so a byte string has other spellings; but none is of
another length, and none else is all in lower case.
-/
import ShardClient.Codec.Hex
import ShardClient.Proofs.Codec.Utf8

namespace ShardClient

namespace Utf8

theorem encodeChar_ascii {c : Char} (h : c.toNat < 128) :
    String.utf8EncodeChar c = [UInt8.ofNat c.toNat] := by
  unfold String.utf8EncodeChar
  exact if_pos (Nat.le_of_lt_succ h)

/-- A text of characters below 128 has one byte for each. -/
theorem encode_ascii {cs : List Char} (h : ∀ c ∈ cs, c.toNat < 128) :
    encode (String.ofList cs) = cs.map fun c => UInt8.ofNat c.toNat := by
  rw [encode, String.toList_ofList]
  induction cs with
  | nil => rfl
  | cons c cs ih =>
    rw [List.flatMap_cons, encodeChar_ascii (h c List.mem_cons_self),
      ih fun d hd => h d (List.mem_cons_of_mem _ hd)]
    rfl

/-- A text whose bytes are below 128 has no other characters either. -/
theorem ascii_of_encode_lt {s : String} (h : ∀ b ∈ encode s, b.toNat < 0x80) :
    ∀ c ∈ s.toList, c.toNat < 128 := by
  intro c hc
  obtain ⟨b, bs, hbytes, -⟩ := step_encodeChar c []
  have hmem : b ∈ String.utf8EncodeChar c := hbytes ▸ List.mem_cons_self
  have hlt := h b (List.mem_flatMap.2 ⟨c, hc, hmem⟩)
  exact Nat.lt_of_not_le fun hlarge => Nat.not_le_of_lt hlt (le_of_mem_encodeChar hlarge hmem)

end Utf8

/-- A digit in lower case. -/
def HexDigit.IsLower (c : Char) : Prop := '0' ≤ c ∧ c ≤ '9' ∨ 'a' ≤ c ∧ c ≤ 'f'

instance (c : Char) : Decidable (HexDigit.IsLower c) :=
  inferInstanceAs (Decidable ('0' ≤ c ∧ c ≤ '9' ∨ 'a' ≤ c ∧ c ≤ 'f'))

namespace Hex

/-- The byte of a digit. -/
def digitByte (d : Nat) : UInt8 := UInt8.ofNat (HexDigit.lower d).toNat

theorem lower_lt {d : Nat} (h : d < 16) : (HexDigit.lower d).toNat < 128 := by
  have hall : ∀ d : Fin 16, (HexDigit.lower d.val).toNat < 128 := by decide
  exact hall ⟨d, h⟩

theorem digitValue?_digitByte {d : Nat} (h : d < 16) : digitValue? (digitByte d) = some d := by
  have hall : ∀ d : Fin 16, digitValue? (digitByte d.val) = some d.val := by decide
  exact hall ⟨d, h⟩

theorem chars_lt (bs : Bytes) : ∀ c ∈ chars bs, c.toNat < 128 := by
  intro c hc
  obtain ⟨b, -, hb⟩ := List.mem_flatMap.1 hc
  have := b.toNat_lt
  rcases (by simpa [byteChars] using hb : c = _ ∨ c = _) with rfl | rfl
  · exact lower_lt (by omega)
  · exact lower_lt (by omega)

/-- The bytes of the text are two digits for each byte. -/
theorem encode_bytes (bs : Bytes) :
    Utf8.encode (encode bs)
      = bs.flatMap fun b => [digitByte (b.toNat / 16), digitByte (b.toNat % 16)] := by
  rw [encode, Utf8.encode_ascii (chars_lt bs), chars, List.map_flatMap]
  rfl

/-- Every byte of the text is that of a digit. -/
theorem exists_digit_of_mem {b : UInt8} {bs : Bytes} (h : b ∈ Utf8.encode (encode bs)) :
    ∃ d : Fin 16, b = digitByte d.val := by
  rw [encode_bytes] at h
  obtain ⟨c, -, hc⟩ := List.mem_flatMap.1 h
  have := c.toNat_lt
  rcases (by simpa using hc : b = _ ∨ b = _) with hb | hb
  · exact ⟨⟨c.toNat / 16, by omega⟩, hb⟩
  · exact ⟨⟨c.toNat % 16, by omega⟩, hb⟩

theorem length_encode_bytes (bs : Bytes) : (Utf8.encode (encode bs)).length = 2 * bs.length := by
  rw [encode_bytes]
  induction bs with
  | nil => rfl
  | cons b bs ih => simp only [List.flatMap_cons, List.length_append, ih, List.length_cons,
      List.length_nil]; omega

theorem decodeFrom_digits (position : Nat) (bs : Bytes) :
    decodeFrom position
      (bs.flatMap fun b => [digitByte (b.toNat / 16), digitByte (b.toNat % 16)]) = .ok bs := by
  induction bs generalizing position with
  | nil => rfl
  | cons b bs ih =>
    have := b.toNat_lt
    rw [List.flatMap_cons, List.cons_append, List.cons_append, List.nil_append, decodeFrom,
      digitValue?_digitByte (show b.toNat / 16 < 16 by omega),
      digitValue?_digitByte (show b.toNat % 16 < 16 by omega)]
    simp only [ih]
    show Except.ok (UInt8.ofNat (b.toNat / 16 * 16 + b.toNat % 16) :: bs) = _
    rw [Nat.div_add_mod', UInt8.ofNat_toNat]

/-- **Reading the digits of a byte string gives it back.** -/
theorem decode_encode (bs : Bytes) : decode (Utf8.encode (encode bs)) = .ok bs := by
  unfold decode
  rw [length_encode_bytes, if_neg (by omega), encode_bytes]
  exact decodeFrom_digits 0 bs

/-! ### Lower case -/

theorem isLower_lower {d : Nat} (h : d < 16) : HexDigit.IsLower (HexDigit.lower d) := by
  have hall : ∀ d : Fin 16, HexDigit.IsLower (HexDigit.lower d.val) := by decide
  exact hall ⟨d, h⟩

theorem isLower_of_mem_chars {bs : Bytes} : ∀ c ∈ chars bs, HexDigit.IsLower c := by
  intro c hc
  obtain ⟨b, -, hb⟩ := List.mem_flatMap.1 hc
  have := b.toNat_lt
  rcases (by simpa [byteChars] using hb : c = _ ∨ c = _) with rfl | rfl
  · exact isLower_lower (by omega)
  · exact isLower_lower (by omega)

@[simp] theorem length_chars (bs : Bytes) : (chars bs).length = 2 * bs.length := by
  induction bs with
  | nil => rfl
  | cons b bs ih =>
    rw [chars, List.flatMap_cons, List.length_append]
    show 2 + (chars bs).length = _
    rw [ih, List.length_cons]
    omega

/-! ### Order -/

/-- Digits are in the order of their values. -/
theorem lower_lt_lower {i j : Nat} (hi : i < 16) (hj : j < 16) :
    HexDigit.lower i < HexDigit.lower j ↔ i < j := by
  have hall : ∀ i j : Fin 16, HexDigit.lower i.val < HexDigit.lower j.val ↔ i.val < j.val := by
    decide
  exact hall ⟨i, hi⟩ ⟨j, hj⟩

theorem lower_eq_lower {i j : Nat} (hi : i < 16) (hj : j < 16) :
    HexDigit.lower i = HexDigit.lower j ↔ i = j := by
  have hall : ∀ i j : Fin 16, HexDigit.lower i.val = HexDigit.lower j.val ↔ i.val = j.val := by
    decide
  exact hall ⟨i, hi⟩ ⟨j, hj⟩

/-- **Digits keep the order of the bytes.** -/
theorem chars_lt_chars {bs cs : Bytes} : chars bs < chars cs ↔ bs < cs := by
  induction bs generalizing cs with
  | nil =>
    cases cs with
    | nil => simp [chars]
    | cons c cs => simp [chars, byteChars]
  | cons b bs ih =>
    cases cs with
    | nil => simp [chars, byteChars]
    | cons c cs =>
      have hb := b.toNat_lt
      have hc := c.toNat_lt
      show _ :: _ :: chars bs < _ :: _ :: chars cs ↔ _
      rw [List.cons_lt_cons_iff, List.cons_lt_cons_iff, List.cons_lt_cons_iff, ih,
        lower_lt_lower (by omega) (by omega), lower_lt_lower (by omega) (by omega),
        lower_eq_lower (by omega) (by omega), lower_eq_lower (by omega) (by omega),
        UInt8.lt_iff_toNat_lt, ← UInt8.toNat_inj]
      by_cases hrest : bs < cs
      · simp only [hrest, and_true]
        omega
      · simp only [hrest, and_false, or_false]
        omega

/-! ### What is read -/

/-- A byte that is read as a digit is that of a digit; in lower case, of the one that is written. -/
theorem digitValue?_eq_some {b : UInt8} {d : Nat} (h : digitValue? b = some d) :
    b.toNat < 0x80 ∧ d < 16 ∧ (HexDigit.IsLower (Char.ofNat b.toNat) → b = digitByte d) := by
  have hall : ∀ n : Fin 256, ∀ d ∈ digitValue? (UInt8.ofNat n.val), n.val < 0x80 ∧ d < 16 ∧
      (HexDigit.IsLower (Char.ofNat n.val) → UInt8.ofNat n.val = digitByte d) := by
    decide +kernel
  have hb := hall ⟨b.toNat, b.toNat_lt⟩ d
  rw [UInt8.ofNat_toNat] at hb
  exact hb h

/-- What is read has two digits for each byte, and in lower case just those that are written. -/
theorem of_decodeFrom {position : Nat} {text bs : Bytes} (h : decodeFrom position text = .ok bs) :
    text.length = 2 * bs.length ∧ (∀ b ∈ text, b.toNat < 0x80) ∧
      ((∀ b ∈ text, HexDigit.IsLower (Char.ofNat b.toNat)) →
        text = bs.flatMap fun b => [digitByte (b.toNat / 16), digitByte (b.toNat % 16)]) := by
  fun_induction decodeFrom position text generalizing bs with
  | case1 =>
    cases h
    exact ⟨rfl, by simp, fun _ => rfl⟩
  | case2 => cases h
  | case3 position a b rest x y hy hx ih =>
    obtain ⟨ha, hx, halower⟩ := digitValue?_eq_some hx
    obtain ⟨hb, hy, hblower⟩ := digitValue?_eq_some hy
    cases hrest : decodeFrom (position + 2) rest with
    | error e =>
      rw [hrest] at h
      cases h
    | ok bytes =>
      rw [hrest] at h
      obtain rfl := Except.ok.inj h
      obtain ⟨hlength, hascii, hlower⟩ := ih hrest
      simp only [List.forall_mem_cons]
      refine ⟨by simp only [List.length_cons, hlength]; omega, ⟨ha, hb, hascii⟩, ?_⟩
      rintro ⟨hla, hlb, hall⟩
      have hbyte : (UInt8.ofNat (x * 16 + y)).toNat = x * 16 + y :=
        UInt8.toNat_ofNat_of_lt' (show x * 16 + y < 256 by omega)
      have hhigh : (x * 16 + y) / 16 = x := by omega
      have hlow : (x * 16 + y) % 16 = y := by omega
      rw [List.flatMap_cons, hbyte, hhigh, hlow, ← hlower hall, ← halower hla, ← hblower hlb]
      rfl
  | case4 => cases h
  | case5 => cases h

/-- The same of a text, by its characters. -/
theorem of_decode {s : String} {bs : Bytes} (h : decode (Utf8.encode s) = .ok bs) :
    s.length = 2 * bs.length ∧ ((∀ c ∈ s.toList, HexDigit.IsLower c) → s = encode bs) := by
  unfold decode at h
  split at h
  · cases h
  obtain ⟨hlength, hbytes, hlower⟩ := of_decodeFrom h
  have hascii := Utf8.ascii_of_encode_lt hbytes
  have hencode : Utf8.encode s = s.toList.map fun c => UInt8.ofNat c.toNat := by
    rw [← Utf8.encode_ascii hascii, String.ofList_toList]
  refine ⟨?_, fun hs => ?_⟩
  · rw [hencode, List.length_map] at hlength
    exact hlength
  · have heq : Utf8.encode s = Utf8.encode (encode bs) := by
      rw [encode_bytes]
      refine hlower fun b hb => ?_
      rw [hencode] at hb
      obtain ⟨c, hc, rfl⟩ := List.mem_map.1 hb
      have hbyte : (UInt8.ofNat c.toNat).toNat = c.toNat :=
        UInt8.toNat_ofNat_of_lt' (Nat.lt_trans (hascii c hc) (by decide))
      rw [hbyte, Char.ofNat_toNat]
      exact hs c hc
    have hdecoded := congrArg Utf8.decode? heq
    rw [Utf8.decode?_encode, Utf8.decode?_encode] at hdecoded
    exact Option.some.inj hdecoded

end Hex

end ShardClient
