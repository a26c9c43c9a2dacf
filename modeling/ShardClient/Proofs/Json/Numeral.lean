/-
The numerals that this library writes are numerals of JSON, and stand for their numbers.

A number is written by its decimal digits, the first of which is zero only for zero itself.  So
the numeral begins with a digit, holds nothing but digits, and has no superfluous zero in front,
which is what the grammar asks of a whole number without a sign.
-/
import ShardClient.Json.Field
import ShardClient.Proofs.Codec.Decimal

namespace ShardClient

namespace Json

theorem isDigit_digitByte {d : Nat} (h : d < 10) : isDigit (Decimal.digitByte d) = true := by
  have hall : ∀ d : Fin 10, isDigit (Decimal.digitByte d.val) = true := by decide
  exact hall ⟨d, h⟩

/-- A byte string of digits. -/
theorem isDigit_of_mem {ds : List Nat} (h : ∀ d ∈ ds, d < 10) :
    ∀ b ∈ ds.map Decimal.digitByte, isDigit b = true := by
  intro b hb
  obtain ⟨d, hd, rfl⟩ := List.mem_map.1 hb
  exact isDigit_digitByte (h d hd)

theorem takeWhile_digits {bs : Bytes} (h : ∀ b ∈ bs, isDigit b = true) : bs.takeWhile isDigit = bs := by
  induction bs with
  | nil => rfl
  | cons b bs ih =>
    rw [List.takeWhile_cons, if_pos (h b List.mem_cons_self),
      ih fun c hc => h c (List.mem_cons_of_mem _ hc)]

theorem dropWhile_digits {bs : Bytes} (h : ∀ b ∈ bs, isDigit b = true) : bs.dropWhile isDigit = [] := by
  induction bs with
  | nil => rfl
  | cons b bs ih =>
    rw [List.dropWhile_cons, if_pos (h b List.mem_cons_self),
      ih fun c hc => h c (List.mem_cons_of_mem _ hc)]

/-- Digits without a superfluous zero in front are a numeral. -/
theorem isNumeral_digits {b : UInt8} {bs : Bytes} (h : ∀ c ∈ b :: bs, isDigit c = true)
    (hzero : b = 0x30 → bs = []) : isNumeral (b :: bs) = true := by
  have hb : isDigit b = true := h b List.mem_cons_self
  have hsign : b ≠ 0x2d := by
    rintro rfl
    exact absurd hb (by decide)
  have hfirst : ((b :: bs).length == 1 || (b :: bs).head? != some 0x30) = true := by
    by_cases h0 : b = 0x30
    · rw [hzero h0]
      rfl
    · simp [h0]
  rw [isNumeral]
  · rw [isUnsigned, takeWhile_digits h, dropWhile_digits h, hfirst]
    rfl
  · intro rest hrest
    exact hsign (List.cons.inj hrest).1

theorem isNumeral_ofNat (n : Nat) : isNumeral (Utf8.encode (Decimal.text n)) = true := by
  rw [Decimal.encode_text]
  obtain ⟨d, ds, hds⟩ := List.exists_cons_of_ne_nil (Decimal.digits_ne_nil n)
  have hall := isDigit_of_mem (Decimal.digits_lt n)
  rw [hds] at hall ⊢
  refine isNumeral_digits hall fun h0 => ?_
  have hd : d < 10 := Decimal.digits_lt n d (by rw [hds]; exact List.mem_cons_self)
  have : d = 0 := by
    have := congrArg UInt8.toNat h0
    rw [Decimal.toNat_digitByte hd] at this
    simpa using this
  subst this
  rw [Decimal.digits_zero_first hds, List.map_nil]

theorem foldl_digits {ds : List Nat} (h : ∀ d ∈ ds, d < 10) (m : Nat) :
    (ds.map Decimal.digitByte).foldl (fun n b => n * 10 + (b.toNat - 0x30)) m
      = ds.foldl (fun n d => n * 10 + d) m := by
  induction ds generalizing m with
  | nil => rfl
  | cons d ds ih =>
    rw [List.map_cons, List.foldl_cons, List.foldl_cons,
      Decimal.toNat_digitByte (h d List.mem_cons_self), Nat.add_sub_cancel_left,
      ih fun e he => h e (List.mem_cons_of_mem _ he)]

/-- **The numeral of a number stands for that number.** -/
theorem nat?_ofNat {limit n : Nat} (h : n < limit) : nat? limit (ofNat n) = some n := by
  have hdigits := Decimal.digits_lt n
  have hall : (Utf8.encode (Decimal.text n)).all isDigit = true := by
    rw [Decimal.encode_text, List.all_eq_true]
    exact isDigit_of_mem hdigits
  have hvalue : (Utf8.encode (Decimal.text n)).foldl (fun n b => n * 10 + (b.toNat - 0x30)) 0 = n := by
    rw [Decimal.encode_text, foldl_digits hdigits]
    exact Decimal.ofDigits_digits n
  rw [ofNat, nat?, if_pos hall]
  simp only [hvalue]
  exact if_pos h

end Json

end ShardClient
