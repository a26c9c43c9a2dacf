/-
Digits and numbers are the same thing, once leading zeros are put aside.

`Radix.ofDigits_digits` says that a number is found again in its digits.  Here is the other
direction: a list of digits that does not begin with zero is found again in its number.  Bytes
are the digits in base 256, so the same holds of byte strings.

Digits also show the order of the numbers.  Of lists of one length, that which comes first stands
for the smaller number; and unless there are zeros in front, the shorter of two lists does.
-/
import Mathlib.Algebra.Group.Nat.Defs
import Mathlib.Data.List.Induction
import ShardClient.Bytes

namespace ShardClient

namespace Radix

theorem ofDigits_pos {b : Nat} (hb : 0 < b) {ds : List Nat} (hne : ds ≠ [])
    (hhead : ds.head? ≠ some 0) : 0 < ofDigits b ds := by
  induction ds using List.reverseRecOn with
  | nil => exact absurd rfl hne
  | append_singleton ds d ih =>
    rw [ofDigits_concat]
    cases ds with
    | nil =>
      have : d ≠ 0 := by simpa using hhead
      simp [ofDigits]
      omega
    | cons e es =>
      have hpos : 0 < ofDigits b (e :: es) := ih (by simp) (by simpa using hhead)
      have := Nat.mul_pos hpos hb
      omega

/-- **A list of digits is found again in its number**, unless it begins with zero. -/
theorem digits_ofDigits {b : Nat} (hb : 2 ≤ b) {ds : List Nat} (hlt : ∀ d ∈ ds, d < b)
    (hhead : ds.head? ≠ some 0) : digits b (ofDigits b ds) = ds := by
  induction ds using List.reverseRecOn with
  | nil => exact digits_zero b
  | append_singleton ds d ih =>
    have hd : d < b := hlt d (by simp)
    have hpos : 0 < ofDigits b (ds ++ [d]) := ofDigits_pos (by omega) (by simp) hhead
    rw [digits_of_pos hb hpos, ofDigits_concat]
    have hdiv : (ofDigits b ds * b + d) / b = ofDigits b ds := by
      rw [Nat.mul_comm, Nat.mul_add_div (by omega), Nat.div_eq_of_lt hd, Nat.add_zero]
    have hmod : (ofDigits b ds * b + d) % b = d := by
      rw [Nat.mul_comm, Nat.mul_add_mod, Nat.mod_eq_of_lt hd]
    rw [hdiv, hmod, ih (fun e he => hlt e (by simp [he])) ?_]
    intro h0
    cases ds with
    | nil => simp at h0
    | cons e es => exact hhead (by simpa using h0)

theorem ofDigits_append (b : Nat) (ds es : List Nat) :
    ofDigits b (ds ++ es) = es.foldl (fun n d => n * b + d) (ofDigits b ds) := by
  rw [ofDigits, List.foldl_append]
  rfl

/-- Zeros in front do not count. -/
theorem ofDigits_zeros_append (b k : Nat) (ds : List Nat) :
    ofDigits b (List.replicate k 0 ++ ds) = ofDigits b ds := by
  have hzero : ofDigits b (List.replicate k 0) = 0 := by
    induction k with
    | zero => rfl
    | succ k ih => rw [List.replicate_succ', ofDigits_concat, ih, Nat.zero_mul]
  rw [ofDigits_append, hzero]
  rfl

/-! ### Size -/

/-- The first digit counts for the power of the base that belongs to the digits behind it. -/
theorem ofDigits_cons (b d : Nat) (ds : List Nat) :
    ofDigits b (d :: ds) = d * b ^ ds.length + ofDigits b ds := by
  induction ds using List.reverseRecOn with
  | nil => simp [ofDigits]
  | append_singleton ds e ih =>
    rw [← List.cons_append, ofDigits_concat, ih, ofDigits_concat, List.length_append,
      List.length_singleton, Nat.pow_succ, Nat.add_mul, Nat.mul_assoc, Nat.add_assoc]

/-- So many digits do not reach the power of the base that belongs to one more. -/
theorem ofDigits_lt_pow {b : Nat} {ds : List Nat} (hlt : ∀ d ∈ ds, d < b) :
    ofDigits b ds < b ^ ds.length := by
  induction ds with
  | nil => exact Nat.one_pos
  | cons d ds ih =>
    rw [List.forall_mem_cons] at hlt
    calc ofDigits b (d :: ds)
        = d * b ^ ds.length + ofDigits b ds := ofDigits_cons b d ds
      _ < d * b ^ ds.length + b ^ ds.length := Nat.add_lt_add_left (ih hlt.2) _
      _ = (d + 1) * b ^ ds.length := (Nat.succ_mul ..).symm
      _ ≤ b * b ^ ds.length := Nat.mul_le_mul_right _ hlt.1
      _ = b ^ (d :: ds).length := (Nat.pow_succ').symm

end Radix

namespace Bytes

theorem toNatBE_eq_ofDigits (bs : Bytes) : toNatBE bs = Radix.ofDigits 256 (bs.map (·.toNat)) := by
  rw [toNatBE, Radix.ofDigits, List.foldl_map]

theorem map_ofNat_toNat (bs : Bytes) : (bs.map (·.toNat)).map UInt8.ofNat = bs := by
  induction bs with
  | nil => rfl
  | cons b bs ih => rw [List.map_cons, List.map_cons, UInt8.ofNat_toNat, ih]

/-- A byte string that does not begin with zero is found again in its number. -/
theorem minimalBE_toNatBE {bs : Bytes} (hhead : bs.head? ≠ some 0) :
    minimalBE (toNatBE bs) = bs := by
  rw [minimalBE, toNatBE_eq_ofDigits, Radix.digits_ofDigits (by omega), map_ofNat_toNat]
  · intro d hd
    obtain ⟨b, -, rfl⟩ := List.mem_map.1 hd
    exact b.toNat_lt
  · cases bs with
    | nil => simp
    | cons b bs =>
      intro h
      have hb : b.toNat = 0 := by simpa using h
      exact hhead (by rw [List.head?_cons, UInt8.toNat_inj.1 (hb.trans UInt8.toNat_zero.symm)])

/-- The shortest bytes of a number do not begin with zero. -/
theorem head_minimalBE_ne_zero (n : Nat) : (minimalBE n).head? ≠ some 0 := by
  rw [minimalBE, List.head?_map]
  intro hzero
  obtain ⟨d, hd, hbyte⟩ := Option.map_eq_some_iff.1 hzero
  have hlt : d < 256 := Radix.digits_lt (by omega) n d (List.mem_of_head? hd)
  have : d = 0 := by
    rw [← UInt8.toNat_ofNat_of_lt' hlt, hbyte]
    rfl
  exact Radix.head_digits_ne_zero (by omega) n (this ▸ hd)

/-- A number is found again in its bytes. -/
theorem toNatBE_minimalBE (n : Nat) : toNatBE (minimalBE n) = n := by
  have hdigits : (minimalBE n).map (·.toNat) = Radix.digits 256 n := by
    rw [minimalBE, List.map_map]
    refine (List.map_congr_left fun d hd => ?_).trans (List.map_id _)
    have hlt : d < 256 := Radix.digits_lt (by omega) n d hd
    exact UInt8.toNat_ofNat_of_lt' hlt
  rw [toNatBE_eq_ofDigits, hdigits, Radix.ofDigits_digits (by omega)]

/-- Zero bytes in front do not count. -/
theorem toNatBE_zeros_append (k : Nat) (bs : Bytes) :
    toNatBE (List.replicate k 0 ++ bs) = toNatBE bs := by
  rw [toNatBE_eq_ofDigits, toNatBE_eq_ofDigits, List.map_append, List.map_replicate]
  exact Radix.ofDigits_zeros_append 256 k _

/-! ### Order -/

theorem toNatBE_cons (b : UInt8) (bs : Bytes) :
    toNatBE (b :: bs) = b.toNat * 256 ^ bs.length + toNatBE bs := by
  rw [toNatBE_eq_ofDigits, List.map_cons, Radix.ofDigits_cons, List.length_map,
    toNatBE_eq_ofDigits]

theorem toNatBE_lt_pow (bs : Bytes) : toNatBE bs < 256 ^ bs.length := by
  have hdigits : ∀ d ∈ bs.map (·.toNat), d < 256 := by
    intro d hd
    obtain ⟨b, -, rfl⟩ := List.mem_map.1 hd
    exact b.toNat_lt
  have hlt := Radix.ofDigits_lt_pow hdigits
  rwa [List.length_map, ← toNatBE_eq_ofDigits] at hlt

/-- Of two byte strings of one length, that which comes first stands for the smaller number. -/
theorem toNatBE_lt_of_lt {bs cs : Bytes} (hlength : bs.length = cs.length) (h : bs < cs) :
    toNatBE bs < toNatBE cs := by
  induction bs generalizing cs with
  | nil =>
    obtain rfl := List.eq_nil_of_length_eq_zero hlength.symm
    exact absurd h (List.lt_irrefl _)
  | cons b bs ih =>
    cases cs with
    | nil => simp at hlength
    | cons c cs =>
      have hrest : bs.length = cs.length := Nat.succ.inj hlength
      rw [toNatBE_cons, toNatBE_cons, ← hrest]
      rcases List.cons_lt_cons_iff.1 h with hlt | ⟨rfl, hlt⟩
      · rw [UInt8.lt_iff_toNat_lt] at hlt
        calc b.toNat * 256 ^ bs.length + toNatBE bs
            < b.toNat * 256 ^ bs.length + 256 ^ bs.length :=
              Nat.add_lt_add_left (toNatBE_lt_pow bs) _
          _ = (b.toNat + 1) * 256 ^ bs.length := (Nat.succ_mul ..).symm
          _ ≤ c.toNat * 256 ^ bs.length := Nat.mul_le_mul_right _ hlt
          _ ≤ c.toNat * 256 ^ bs.length + toNatBE cs := Nat.le_add_right ..
      · exact Nat.add_lt_add_left (ih hrest hlt) _

/-- Byte strings of one length that stand for one number are the same. -/
theorem eq_of_toNatBE_eq {bs cs : Bytes} (hlength : bs.length = cs.length)
    (h : toNatBE bs = toNatBE cs) : bs = cs := by
  have hnot : ¬bs < cs := fun hlt => Nat.ne_of_lt (toNatBE_lt_of_lt hlength hlt) h
  have hnot' : ¬cs < bs := fun hlt => Nat.ne_of_lt (toNatBE_lt_of_lt hlength.symm hlt) h.symm
  exact List.le_antisymm hnot' hnot

/-- A byte string without needless zeros in front: it has a byte, and the first is zero only if
it is the only one. -/
structure Minimal (bs : Bytes) : Prop where
  nonempty : bs ≠ []
  zero : bs.head? = some 0 → bs = [0]

theorem minimal_zero : Minimal [0] := ⟨by simp, fun _ => rfl⟩

theorem minimal_minimalBE {n : Nat} (h : n ≠ 0) : Minimal (minimalBE n) where
  nonempty hnil := h (by rw [← toNatBE_minimalBE n, hnil]; rfl)
  zero hhead := absurd hhead (head_minimalBE_ne_zero n)

variable {bs cs : Bytes}

theorem Minimal.pow_le (h : Minimal bs) {k : Nat} (hpos : 0 < k) (hk : k < bs.length) :
    256 ^ k ≤ toNatBE bs := by
  cases bs with
  | nil => exact absurd rfl h.nonempty
  | cons b bs =>
    rw [List.length_cons] at hk
    have hb : b.toNat ≠ 0 := by
      intro h0
      have hsingle := h.zero (congrArg some (UInt8.toNat_inj.1 h0))
      have hnil : bs = [] := (List.cons.inj hsingle).2
      rw [hnil, List.length_nil] at hk
      omega
    calc 256 ^ k
        ≤ 256 ^ bs.length := Nat.pow_le_pow_right (by omega) (by omega)
      _ ≤ b.toNat * 256 ^ bs.length := Nat.le_mul_of_pos_left _ (Nat.pos_of_ne_zero hb)
      _ ≤ b.toNat * 256 ^ bs.length + toNatBE bs := Nat.le_add_right ..
      _ = toNatBE (b :: bs) := (toNatBE_cons b bs).symm

/-- Whatever is shorter stands for a smaller number. -/
theorem Minimal.lt_of_length_lt (h : Minimal cs) (hbs : bs ≠ []) (hlength : bs.length < cs.length) :
    toNatBE bs < toNatBE cs :=
  Nat.lt_of_lt_of_le (toNatBE_lt_pow bs) (h.pow_le (List.length_pos_iff.2 hbs) hlength)

/-- **The shorter of two numbers is the smaller one**, and of the same length that which comes
first. -/
theorem Minimal.toNatBE_lt_iff (hbs : Minimal bs) (hcs : Minimal cs) :
    toNatBE bs < toNatBE cs ↔ bs.length < cs.length ∨ bs.length = cs.length ∧ bs < cs := by
  constructor
  · intro h
    rcases Nat.lt_trichotomy bs.length cs.length with hlt | heq | hgt
    · exact .inl hlt
    · refine .inr ⟨heq, Decidable.byContradiction fun hnot => ?_⟩
      have hnot' : ¬cs < bs := fun hgt => Nat.lt_asymm h (toNatBE_lt_of_lt heq.symm hgt)
      exact Nat.ne_of_lt h (congrArg toNatBE (List.le_antisymm hnot' hnot))
    · exact absurd h (Nat.lt_asymm (hbs.lt_of_length_lt hcs.nonempty hgt))
  · rintro (hlt | ⟨heq, hlt⟩)
    · exact hcs.lt_of_length_lt hbs.nonempty hlt
    · exact toNatBE_lt_of_lt heq hlt

/-- No byte string that stands for the same number is shorter, but for the empty one. -/
theorem Minimal.length_le (h : Minimal bs) (hcs : cs ≠ []) (heq : toNatBE cs = toNatBE bs) :
    bs.length ≤ cs.length :=
  Nat.le_of_not_lt fun hlt => Nat.ne_of_lt (h.lt_of_length_lt hcs hlt) heq

end Bytes

end ShardClient
