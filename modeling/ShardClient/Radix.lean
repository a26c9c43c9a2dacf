/-
Positional notation: a number as a list of digits in a base, most significant first.

Every text form of a number in this library goes through these three functions:
decimal amounts, the bytes of a payload argument, base58 addresses, and the fixed
width integers that hashes and signatures work on.  `ofDigits_digits` says that no
digits are lost, `digits_lt` that each is a digit of the base, and `head_digits_ne_zero`
that the first is never zero; together they make the digits of a number canonical.
-/

namespace ShardClient

namespace Radix

/-- The number that a list of digits stands for, most significant digit first. -/
def ofDigits (b : Nat) (ds : List Nat) : Nat :=
  ds.foldl (fun n d => n * b + d) 0

/-- The digits of `n` in base `b`, most significant first.  Zero has no digits, and so
has every number when `b` is no base at all. -/
def digits (b n : Nat) : List Nat :=
  if _h : n = 0 ∨ b ≤ 1 then [] else digits b (n / b) ++ [n % b]
termination_by n
decreasing_by exact Nat.div_lt_self (by omega) (by omega)

/-- The `width` lowest digits of `n` in base `b`, least significant first. -/
def lowDigits (b : Nat) : (width : Nat) → (n : Nat) → List Nat
  | 0, _ => []
  | w + 1, n => n % b :: lowDigits b w (n / b)

theorem ofDigits_concat (b : Nat) (ds : List Nat) (d : Nat) :
    ofDigits b (ds ++ [d]) = ofDigits b ds * b + d := by
  simp [ofDigits]

theorem digits_zero (b : Nat) : digits b 0 = [] := by
  rw [digits]; simp

theorem digits_of_pos {b n : Nat} (hb : 2 ≤ b) (hn : 0 < n) :
    digits b n = digits b (n / b) ++ [n % b] := by
  rw [digits]
  have : ¬(n = 0 ∨ b ≤ 1) := by omega
  simp [this]

/-- Reading the digits of a number gives the number back. -/
theorem ofDigits_digits {b : Nat} (hb : 2 ≤ b) (n : Nat) : ofDigits b (digits b n) = n := by
  induction n using Nat.strongRecOn with
  | _ n ih =>
    rcases Nat.eq_zero_or_pos n with rfl | hn
    · simp [digits_zero, ofDigits]
    · rw [digits_of_pos hb hn, ofDigits_concat, ih _ (Nat.div_lt_self hn hb)]
      exact Nat.div_add_mod' n b

/-- Every digit is below the base. -/
theorem digits_lt {b : Nat} (hb : 2 ≤ b) (n : Nat) : ∀ d ∈ digits b n, d < b := by
  induction n using Nat.strongRecOn with
  | _ n ih =>
    rcases Nat.eq_zero_or_pos n with rfl | hn
    · simp [digits_zero]
    · rw [digits_of_pos hb hn]
      intro d hd
      rcases List.mem_append.1 hd with h | h
      · exact ih _ (Nat.div_lt_self hn hb) d h
      · have : d = n % b := by simpa using h
        exact this ▸ Nat.mod_lt _ (by omega)

theorem digits_ne_nil {b n : Nat} (hb : 2 ≤ b) (hn : 0 < n) : digits b n ≠ [] := by
  rw [digits_of_pos hb hn]; simp

/-- The first digit of a number is not zero. -/
theorem head_digits_ne_zero {b : Nat} (hb : 2 ≤ b) (n : Nat) : (digits b n).head? ≠ some 0 := by
  induction n using Nat.strongRecOn with
  | _ n ih =>
    rcases Nat.eq_zero_or_pos n with rfl | hn
    · simp [digits_zero]
    · rw [digits_of_pos hb hn]
      by_cases hq : n / b = 0
      · have hlt : n < b := by
          rcases Nat.lt_or_ge n b with h | h
          · exact h
          · have := Nat.div_pos h (by omega); omega
        simp [hq, digits_zero, Nat.mod_eq_of_lt hlt]; omega
      · have hne := digits_ne_nil hb (Nat.pos_of_ne_zero hq)
        have ih := ih _ (Nat.div_lt_self hn hb)
        obtain ⟨d, ds, hd⟩ := List.exists_cons_of_ne_nil hne
        simpa [hd] using ih

@[simp] theorem length_lowDigits (b w n : Nat) : (lowDigits b w n).length = w := by
  induction w generalizing n with
  | zero => rfl
  | succ w ih => simp [lowDigits, ih]

end Radix

end ShardClient
