/-
Strings and numbers of JSON, as this library spells them.

`Spelling` says what may stand between the quotes of a string: the scanner takes such a spelling
whole and stops at the quote behind it.  The spelling of a text is one, and it stands for that
text and for no other.  The same is shown of the numeral of a number, which the scanner accepts
and which stands for that number.
-/
import ShardClient.Json.Field
import ShardClient.Proofs.Codec.Hex
import ShardClient.Proofs.Codec.Utf8

namespace ShardClient

namespace Json

/-! ### Strings -/

/-- What may stand between the quotes of a string. -/
inductive Spelling : Bytes → Prop
  | nil : Spelling []
  | plain {b : UInt8} {rest : Bytes} (quote : b ≠ 0x22) (backslash : b ≠ 0x5c)
      (control : ¬b < 0x20) (h : Spelling rest) : Spelling (b :: rest)
  | letter {l : UInt8} {rest : Bytes} (hl : isEscapeLetter l = true) (h : Spelling rest) :
      Spelling (0x5c :: l :: rest)
  | number {a b c d : UInt8} {rest : Bytes} (ha : isHexDigit a = true) (hb : isHexDigit b = true)
      (hc : isHexDigit c = true) (hd : isHexDigit d = true) (h : Spelling rest) :
      Spelling (0x5c :: 0x75 :: a :: b :: c :: d :: rest)

theorem Spelling.append {s t : Bytes} (hs : Spelling s) (ht : Spelling t) : Spelling (s ++ t) := by
  induction hs with
  | nil => exact ht
  | plain hq hb hc _ ih => exact .plain hq hb hc ih
  | letter hl _ ih => exact .letter hl ih
  | number ha hb hc hd _ ih => exact .number ha hb hc hd ih

/-- The scanner takes a spelling whole and ends the string at the quote behind it. -/
theorem scanFrom_spelling {s : Bytes} (h : Spelling s) (done : List Token) (spelt rest : Bytes) :
    scanFrom done (.string spelt) (s ++ 0x22 :: rest)
      = scanFrom (.string (spelt.reverse ++ s) :: done) .between rest := by
  induction h generalizing spelt with
  | nil => simp [scanFrom, Scan.step?]
  | plain hq hb hc _ ih =>
    rw [List.cons_append, scanFrom]
    simp only [Scan.step?, if_neg hq, if_neg hb, if_neg hc, List.reverse_nil, List.nil_append, ih]
    simp
  | letter hl _ ih =>
    rw [List.cons_append, List.cons_append, scanFrom]
    simp only [Scan.step?, if_neg (show (0x5c : UInt8) ≠ 0x22 by decide), if_true, List.reverse_nil,
      List.nil_append]
    rw [scanFrom]
    simp only [Scan.step?, hl, if_true, List.reverse_nil, List.nil_append, ih]
    simp
  | number ha hb hc hd _ ih =>
    simp only [List.cons_append]
    rw [scanFrom]
    simp only [Scan.step?, if_neg (show (0x5c : UInt8) ≠ 0x22 by decide), if_true, List.reverse_nil,
      List.nil_append]
    rw [scanFrom]
    simp only [Scan.step?, if_neg (show ¬isEscapeLetter 0x75 = true by decide), if_true,
      List.reverse_nil, List.nil_append]
    simp only [scanFrom, Scan.step?, ha, hb, hc, hd, if_true, List.reverse_nil, List.nil_append, ih]
    simp

theorem isHexDigit_digitByte {d : Nat} (h : d < 16) : isHexDigit (Hex.digitByte d) = true := by
  have hall : ∀ d : Fin 16, isHexDigit (Hex.digitByte d.val) = true := by decide
  exact hall ⟨d, h⟩

/-- A byte is escaped as two characters, as a number, or not at all. -/
theorem escape_cases (b : UInt8) :
    (∃ l, escape b = [0x5c, l] ∧ isEscapeLetter l = true ∧ escapedByte l = b) ∨
    (escape b = [0x5c, 0x75, 0x30, 0x30, Hex.digitByte (b.toNat / 16), Hex.digitByte (b.toNat % 16)]
      ∧ b < 0x20) ∨
    (escape b = [b] ∧ b ≠ 0x22 ∧ b ≠ 0x5c ∧ ¬b < 0x20) := by
  by_cases h1 : b = 0x22
  · subst h1; exact .inl ⟨0x22, by decide⟩
  by_cases h2 : b = 0x5c
  · subst h2; exact .inl ⟨0x5c, by decide⟩
  by_cases h3 : b = 0x08
  · subst h3; exact .inl ⟨0x62, by decide⟩
  by_cases h4 : b = 0x09
  · subst h4; exact .inl ⟨0x74, by decide⟩
  by_cases h5 : b = 0x0a
  · subst h5; exact .inl ⟨0x6e, by decide⟩
  by_cases h6 : b = 0x0c
  · subst h6; exact .inl ⟨0x66, by decide⟩
  by_cases h7 : b = 0x0d
  · subst h7; exact .inl ⟨0x72, by decide⟩
  by_cases h8 : b < 0x20
  · refine .inr (.inl ⟨?_, h8⟩)
    rw [escape, if_neg h1, if_neg h2, if_neg h3, if_neg h4, if_neg h5, if_neg h6, if_neg h7,
      if_pos h8, Hex.encode_bytes]
    rfl
  · refine .inr (.inr ⟨?_, h1, h2, h8⟩)
    rw [escape, if_neg h1, if_neg h2, if_neg h3, if_neg h4, if_neg h5, if_neg h6, if_neg h7,
      if_neg h8]

theorem spelling_escape (b : UInt8) : Spelling (escape b) := by
  have hb := b.toNat_lt
  rcases escape_cases b with ⟨l, he, hl, -⟩ | ⟨he, -⟩ | ⟨he, hq, hs, hc⟩
  · rw [he]
    exact .letter hl .nil
  · rw [he]
    exact .number (by decide) (by decide) (isHexDigit_digitByte (by omega))
      (isHexDigit_digitByte (by omega)) .nil
  · rw [he]
    exact .plain hq hs hc .nil

/-- The spelling of a text may stand between quotes. -/
theorem spelling_spell (s : String) : Spelling (spell s) := by
  unfold spell
  induction Utf8.encode s with
  | nil => exact .nil
  | cons b bs ih =>
    rw [List.flatMap_cons]
    exact (spelling_escape b).append ih

theorem escapeNumber_digits {b : UInt8} :
    escapeNumber 0x30 0x30 (Hex.digitByte (b.toNat / 16)) (Hex.digitByte (b.toNat % 16))
      = b.toNat := by
  have hb := b.toNat_lt
  have hzero : hexValue 0x30 = 0 := by decide
  rw [escapeNumber, hzero, hexValue, hexValue, Hex.digitValue?_digitByte (by omega),
    Hex.digitValue?_digitByte (by omega), Option.getD_some, Option.getD_some]
  omega

theorem isEscapeLetter_ne {l : UInt8} (h : isEscapeLetter l = true) : l ≠ 0x75 := by
  rintro rfl
  exact absurd h (by decide)

/-- What has been escaped is found again. -/
theorem unescapeFrom_escape (b : UInt8) (rest : Bytes) :
    unescapeFrom none (escape b ++ rest) = (unescapeFrom none rest).map (b :: ·) := by
  rcases escape_cases b with ⟨l, he, hl, hb⟩ | ⟨he, hb⟩ | ⟨he, -, hs, -⟩
  · rw [he, List.cons_append, List.cons_append, List.nil_append, unescapeFrom]
    · rw [hb]
      cases unescapeFrom none rest <;> rfl
    · rintro a b c d rest h -
      exact isEscapeLetter_ne hl h
  · have hlt : b.toNat < 0x20 := hb
    have hchar : String.utf8EncodeChar (Char.ofNat b.toNat) = [b] := by
      have hall : ∀ n : Fin 32, String.utf8EncodeChar (Char.ofNat n.val) = [UInt8.ofNat n.val] := by
        decide
      rw [hall ⟨b.toNat, hlt⟩, UInt8.ofNat_toNat]
    rw [he]
    simp only [List.cons_append, List.nil_append]
    rw [unescapeFrom]
    simp only [escapeNumber_digits, if_neg (show ¬(0xd800 ≤ b.toNat ∧ b.toNat ≤ 0xdbff) by omega),
      if_neg (show ¬(0xdc00 ≤ b.toNat ∧ b.toNat ≤ 0xdfff) by omega), hchar]
    cases unescapeFrom none rest <;> rfl
  · rw [he, List.cons_append, List.nil_append, unescapeFrom]
    · cases unescapeFrom none rest <;> rfl
    · rintro a b c d rest h -
      exact hs h
    · rintro l rest h -
      exact hs h

/-- **The spelling of a text stands for that text.** -/
theorem unspell?_spell (s : String) : unspell? (spell s) = some s := by
  have hbytes : ∀ bs : Bytes, unescapeFrom none (bs.flatMap escape) = some bs := by
    intro bs
    induction bs with
    | nil => rfl
    | cons b bs ih => rw [List.flatMap_cons, unescapeFrom_escape, ih, Option.map_some]
  rw [unspell?, spell, hbytes, Option.bind_some, Utf8.decode?_encode]

@[simp] theorem text?_ofText (s : String) : text? (ofText s) = some s := unspell?_spell s

end Json

end ShardClient
