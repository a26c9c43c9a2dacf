/-
Decimal text loses nothing.

A number is written by its digits, the first of which is zero only for zero itself.  Reading
multiplies and adds, and checks the range at each digit; since the number only grows, a number
within the range passes every check.  The other way round, what is read has been spelt by
digits, perhaps with zeros in front and perhaps behind a plus sign.
-/
import ShardClient.Proofs.Codec.Hex
import ShardClient.Text.Decimal

namespace ShardClient

namespace Decimal

/-- The byte of a digit. -/
def digitByte (d : Nat) : UInt8 := UInt8.ofNat (48 + d)

theorem toNat_digitByte {d : Nat} (h : d < 10) : (digitByte d).toNat = 48 + d := by
  rw [digitByte, UInt8.toNat_ofNat']
  omega

theorem toNat_digitChar {d : Nat} (h : d < 10) : (digitChar d).toNat = 48 + d := by
  have hall : ∀ d : Fin 10, (digitChar d.val).toNat = 48 + d.val := by decide
  exact hall ⟨d, h⟩

/-- The digits of a number as it is written: at least one. -/
def digits (n : Nat) : List Nat := if n = 0 then [0] else Radix.digits 10 n

theorem digits_lt (n : Nat) : ∀ d ∈ digits n, d < 10 := by
  unfold digits
  split
  · simp
  · exact Radix.digits_lt (by omega) n

theorem ofDigits_digits (n : Nat) : Radix.ofDigits 10 (digits n) = n := by
  unfold digits
  split
  · next h => rw [h]; rfl
  · exact Radix.ofDigits_digits (by omega) n

theorem digits_ne_nil (n : Nat) : digits n ≠ [] := by
  unfold digits
  split
  · simp
  · exact Radix.digits_ne_nil (by omega) (by omega)

/-- Only zero itself begins with zero. -/
theorem digits_zero_first {n : Nat} {ds : List Nat} (h : digits n = 0 :: ds) : ds = [] := by
  unfold digits at h
  split at h
  · exact (List.cons.inj h).2.symm
  · exact absurd (by rw [h]; rfl) (Radix.head_digits_ne_zero (b := 10) (by omega) n)

theorem chars_eq (n : Nat) : chars n = (digits n).map digitChar := by
  unfold chars digits
  split
  · rfl
  · rfl

/-- The bytes of a number are those of its digits. -/
theorem encode_text (n : Nat) : Utf8.encode (text n) = (digits n).map digitByte := by
  rw [text, chars_eq, Utf8.encode_ascii, List.map_map]
  · refine List.map_congr_left fun d hd => ?_
    rw [Function.comp, toNat_digitChar (digits_lt n d hd)]
    rfl
  · intro c hc
    obtain ⟨d, hd, rfl⟩ := List.mem_map.1 hc
    have := digits_lt n d hd
    rw [toNat_digitChar this]
    omega

theorem digitValue?_digitChar {d : Nat} (h : d < 10) : digitValue? (digitChar d) = some d := by
  have hall : ∀ d : Fin 10, digitValue? (digitChar d.val) = some d.val := by decide
  exact hall ⟨d, h⟩

theorem le_foldl (ds : List Nat) (m : Nat) : m ≤ ds.foldl (fun n d => n * 10 + d) m := by
  induction ds generalizing m with
  | nil => exact Nat.le_refl m
  | cons d ds ih => exact Nat.le_trans (by omega) (ih (m * 10 + d))

/-- Digits are read as long as the number stays below the limit. -/
theorem readFrom_digits {ds : List Nat} (h : ∀ d ∈ ds, d < 10) {limit m : Nat}
    (hlimit : ds.foldl (fun n d => n * 10 + d) m < limit) :
    readFrom limit m (ds.map digitChar) = .ok (ds.foldl (fun n d => n * 10 + d) m) := by
  induction ds generalizing m with
  | nil => rfl
  | cons d ds ih =>
    have hm : m * 10 + d < limit := Nat.lt_of_le_of_lt (le_foldl ds _) hlimit
    rw [List.map_cons, readFrom, digitValue?_digitChar (h d List.mem_cons_self)]
    simp only [if_pos hm, List.foldl_cons]
    exact ih (fun e he => h e (List.mem_cons_of_mem _ he)) hlimit

/-- Behind no plus sign all characters are read as digits. -/
theorem read_digits (limit : Nat) {ds : List Nat} (h : ∀ d ∈ ds, d < 10) (hne : ds ≠ []) :
    read limit (ds.map digitChar) = readFrom limit 0 (ds.map digitChar) := by
  obtain ⟨d, ds, rfl⟩ := List.exists_cons_of_ne_nil hne
  have hplus : digitChar d ≠ '+' := by
    intro hc
    have := toNat_digitChar (h d List.mem_cons_self)
    rw [hc] at this
    exact absurd this (by simp; omega)
  rw [List.map_cons, read]
  · simp
  · intro hc
    exact hplus (List.cons.inj hc).1
  · intro cs hc
    exact hplus (List.cons.inj hc).1

/-! ### What is read -/

theorem digitChar_of_digitValue? {c : Char} {d : Nat} (h : digitValue? c = some d) :
    d < 10 ∧ c = digitChar d := by
  unfold digitValue? at h
  split at h
  · next hc =>
    obtain rfl := Option.some.inj h
    have hlow : 48 ≤ c.toNat := hc.1
    have hhigh : c.toNat ≤ 57 := hc.2
    refine ⟨by omega, ?_⟩
    rw [digitChar, show 48 + (c.toNat - 48) = c.toNat by omega]
    exact (Char.ofNat_toNat c).symm
  · exact absurd h (by simp)

theorem digits_of_readFrom {limit m n : Nat} {cs : List Char} (h : readFrom limit m cs = .ok n) :
    ∃ ds : List Nat, (∀ d ∈ ds, d < 10) ∧ cs = ds.map digitChar ∧
      ds.foldl (fun n d => n * 10 + d) m = n ∧ (m < limit → n < limit) ∧ (ds ≠ [] → n < limit) := by
  induction cs generalizing m with
  | nil =>
    obtain rfl : m = n := by simpa [readFrom] using h
    exact ⟨[], by simp, rfl, rfl, id, by simp⟩
  | cons c cs ih =>
    unfold readFrom at h
    cases hc : digitValue? c with
    | none => simp [hc] at h
    | some d =>
      obtain ⟨hd, rfl⟩ := digitChar_of_digitValue? hc
      simp only [hc] at h
      by_cases hm : m * 10 + d < limit
      · rw [if_pos hm] at h
        obtain ⟨ds, hds, rfl, hvalue, hlimit, -⟩ := ih h
        exact ⟨d :: ds, List.forall_mem_cons.2 ⟨hd, hds⟩, rfl, hvalue, fun _ => hlimit hm,
          fun _ => hlimit hm⟩
      · rw [if_neg hm] at h
        simp at h

/-- A text spells a number: by digits, perhaps with zeros in front, perhaps behind a plus sign. -/
def Spells (s : String) (n : Nat) : Prop :=
  ∃ ds : List Nat, ds ≠ [] ∧ (∀ d ∈ ds, d < 10) ∧ Radix.ofDigits 10 ds = n ∧
    (s.toList = ds.map digitChar ∨ s.toList = '+' :: ds.map digitChar)

/-- **A text is read as the number that it spells**, if this is within the range asked for. -/
theorem ofText_eq_ok {limit n : Nat} {s : String} : ofText limit s = .ok n ↔ Spells s n ∧ n < limit := by
  unfold ofText
  constructor
  · intro h
    generalize hs : s.toList = cs at h
    unfold read at h
    split at h
    · simp at h
    · simp at h
    · next cs hne =>
      obtain ⟨ds, hds, rfl, hvalue, -, hlimit⟩ := digits_of_readFrom h
      have hnil : ds ≠ [] := by
        rintro rfl
        exact hne rfl
      exact ⟨⟨ds, hnil, hds, hvalue, .inr hs⟩, hlimit hnil⟩
    · next cs hne _ _ =>
      obtain ⟨ds, hds, rfl, hvalue, -, hlimit⟩ := digits_of_readFrom h
      have hnil : ds ≠ [] := by
        rintro rfl
        exact hne rfl
      exact ⟨⟨ds, hnil, hds, hvalue, .inl hs⟩, hlimit hnil⟩
  · rintro ⟨⟨ds, hnil, hds, hvalue, hs⟩, hlimit⟩
    have hread : readFrom limit 0 (ds.map digitChar) = .ok n := by
      have hdigits := readFrom_digits hds (m := 0) (hvalue.symm ▸ hlimit)
      rw [hdigits]
      exact congrArg _ hvalue
    rcases hs with hs | hs
    · rw [hs, read_digits limit hds hnil, hread]
    · obtain ⟨d, ds, rfl⟩ := List.exists_cons_of_ne_nil hnil
      rw [hs, List.map_cons, read]
      · exact hread
      · simp

theorem spells_text (n : Nat) : Spells (text n) n :=
  ⟨digits n, digits_ne_nil n, digits_lt n, ofDigits_digits n, .inl (by
    rw [text, String.toList_ofList, chars_eq])⟩

/-- **Reading the text of a number gives it back**, if it is within the range asked for. -/
theorem ofText_text {limit n : Nat} (h : n < limit) : ofText limit (text n) = .ok n :=
  ofText_eq_ok.2 ⟨spells_text n, h⟩

end Decimal

end ShardClient
