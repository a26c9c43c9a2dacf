/-
Base58 loses nothing and reads nothing twice, and so neither does the text of an address.

A byte string falls into its leading zeros and a rest that does not begin with zero.  Each zero
is written as a `1`, which is also the digit zero, and the rest as the digits of a number, the
first of which is never zero.  So reading finds the same cut again, and the digits give the
number and with it the rest back.

The same cut, made in a text, shows what is read: `Spells` says it without an algorithm, and a
text that spells a byte string is the one that the byte string is written as.
-/
import ShardClient.Address
import ShardClient.Proofs.Codec.Radix

namespace ShardClient

namespace Base58

theorem digitValue?_digitChar {d : Nat} (h : d < 58) : digitValue? (digitChar d) = some d := by
  have hall : ∀ d : Fin 58, digitValue? (digitChar d.val) = some d.val := by decide +kernel
  exact hall ⟨d, h⟩

/-- Characters of digits have the digits as their values. -/
theorem valuesFrom_map (position : Nat) {ds : List Nat} (h : ∀ d ∈ ds, d < 58) :
    valuesFrom position (ds.map digitChar) = .ok ds := by
  induction ds generalizing position with
  | nil => rfl
  | cons d ds ih =>
    have htail := ih (position + 1) fun e he => h e (List.mem_cons_of_mem _ he)
    rw [List.map_cons, valuesFrom, digitValue?_digitChar (h d List.mem_cons_self)]
    simp only [htail]
    rfl

/-- The zeros in front are found again. -/
theorem takeWhile_zeros_append {α : Type} [DecidableEq α] {zero : α} {k : Nat} {l : List α}
    (hl : l.head? ≠ some zero) :
    (List.replicate k zero ++ l).takeWhile (· == zero) = List.replicate k zero := by
  induction k with
  | zero =>
    cases l with
    | nil => rfl
    | cons a l =>
      have ha : a ≠ zero := by simpa using hl
      simp [ha]
  | succ k ih =>
    rw [List.replicate_succ, List.cons_append, List.takeWhile_cons, if_pos (beq_self_eq_true zero),
      ih]

/-- A list is as many zeros as stand in front and a rest that does not begin with zero. -/
theorem exists_zeros_append {α : Type} [DecidableEq α] (zero : α) (l : List α) :
    ∃ (k : Nat) (rest : List α), l = List.replicate k zero ++ rest ∧ rest.head? ≠ some zero := by
  induction l with
  | nil => exact ⟨0, [], rfl, by simp⟩
  | cons a l ih =>
    by_cases ha : a = zero
    · obtain ⟨k, rest, rfl, hrest⟩ := ih
      exact ⟨k + 1, rest, by rw [ha, List.replicate_succ, List.cons_append], hrest⟩
    · exact ⟨0, a :: l, rfl, by simpa using ha⟩

/-- The characters of a byte string are those of as many zeros and of the digits of a number. -/
theorem chars_eq (k : Nat) {rest : Bytes} (hrest : rest.head? ≠ some 0) :
    chars (List.replicate k 0 ++ rest)
      = (List.replicate k 0 ++ Radix.digits 58 (Bytes.toNatBE rest)).map digitChar := by
  rw [chars, takeWhile_zeros_append hrest, Bytes.toNatBE_zeros_append, List.map_append,
    List.map_replicate, List.map_replicate]
  rfl

/-- Digits that begin with zeros spell as many zero bytes and the bytes of a number. -/
theorem ofValues_zeros_append (k : Nat) {ds : List Nat} (hds : ds.head? ≠ some 0) :
    ofValues (List.replicate k 0 ++ ds)
      = List.replicate k 0 ++ Bytes.minimalBE (Radix.ofDigits 58 ds) := by
  rw [ofValues, takeWhile_zeros_append hds, Radix.ofDigits_zeros_append, List.map_replicate]

/-- **Reading the text of a byte string gives it back.** -/
theorem decode_encode (bs : Bytes) : decode (encode bs) = .ok bs := by
  obtain ⟨k, rest, rfl, hrest⟩ := exists_zeros_append 0 bs
  have hdigits : ∀ d ∈ List.replicate k 0 ++ Radix.digits 58 (Bytes.toNatBE rest), d < 58 := by
    intro d hd
    rcases List.mem_append.1 hd with h | h
    · have := (List.mem_replicate.1 h).2
      omega
    · exact Radix.digits_lt (by omega) _ d h
  have hvalues : ofValues (List.replicate k 0 ++ Radix.digits 58 (Bytes.toNatBE rest))
      = List.replicate k 0 ++ rest := by
    rw [ofValues_zeros_append k (Radix.head_digits_ne_zero (by omega) _),
      Radix.ofDigits_digits (by omega), Bytes.minimalBE_toNatBE hrest]
  rw [decode, encode, String.toList_ofList, chars_eq k hrest, valuesFrom_map 0 hdigits]
  exact congrArg Except.ok hvalues

/-! ### What is read -/

/-- A text spells a byte string: its characters are of the alphabet, it has a `1` in front for
each zero byte in front, and read in base 58 it is the number of the bytes. -/
structure Spells (s : String) (bs : Bytes) : Prop where
  digits : ∀ c ∈ s.toList, c ∈ alphabet
  zeros : (s.toList.takeWhile (· == '1')).length = (bs.takeWhile (· == 0)).length
  number : Radix.ofDigits 58 (s.toList.map (alphabet.idxOf ·)) = Bytes.toNatBE bs

theorem length_alphabet : alphabet.length = 58 := by decide +kernel

theorem idxOf_one : alphabet.idxOf '1' = 0 := by decide +kernel

theorem digitChar_zero : digitChar 0 = '1' := by decide +kernel

theorem digitValue?_eq_some {c : Char} {d : Nat} (h : digitValue? c = some d) :
    c ∈ alphabet ∧ d = alphabet.idxOf c := by
  obtain ⟨hlt, rfl⟩ := List.findIdx?_eq_some_iff_findIdx_eq.1 h
  exact ⟨List.idxOf_lt_length_iff.1 hlt, rfl⟩

theorem digitChar_idxOf {c : Char} (h : c ∈ alphabet) : digitChar (alphabet.idxOf c) = c := by
  rw [digitChar, List.getD_eq_getElem?_getD,
    List.getElem?_eq_getElem (List.idxOf_lt_length_of_mem h), List.getElem_idxOf, Option.getD_some]

/-- What is read has characters of the alphabet only, and each has its place there as value. -/
theorem valuesFrom_eq_ok {position : Nat} {cs : List Char} {ds : List Nat}
    (h : valuesFrom position cs = .ok ds) :
    (∀ c ∈ cs, c ∈ alphabet) ∧ ds = cs.map (alphabet.idxOf ·) := by
  induction cs generalizing position ds with
  | nil =>
    obtain rfl : [] = ds := by simpa [valuesFrom] using h
    exact ⟨by simp, rfl⟩
  | cons c cs ih =>
    rw [valuesFrom] at h
    cases hc : digitValue? c with
    | none => simp [hc] at h
    | some d =>
      obtain ⟨hmem, rfl⟩ := digitValue?_eq_some hc
      cases htail : valuesFrom (position + 1) cs with
      | error e => simp [hc, htail, bind, Except.bind] at h
      | ok es =>
        obtain ⟨hall, rfl⟩ := ih htail
        obtain rfl : _ = ds := by simpa [hc, htail, bind, Except.bind] using h
        exact ⟨List.forall_mem_cons.2 ⟨hmem, hall⟩, rfl⟩

/-- The characters `1` in front of a text are the zeros in front of its digits. -/
theorem exists_ones_append {cs : List Char} (h : ∀ c ∈ cs, c ∈ alphabet) :
    ∃ (k : Nat) (rest : List Char), cs = List.replicate k '1' ++ rest ∧ rest.head? ≠ some '1' ∧
      cs.map (alphabet.idxOf ·) = List.replicate k 0 ++ rest.map (alphabet.idxOf ·) ∧
      (rest.map (alphabet.idxOf ·)).head? ≠ some 0 := by
  obtain ⟨k, rest, rfl, hrest⟩ := exists_zeros_append '1' cs
  refine ⟨k, rest, rfl, hrest, by rw [List.map_append, List.map_replicate, idxOf_one], ?_⟩
  rw [List.head?_map]
  intro hzero
  obtain ⟨c, hc, hindex⟩ := Option.map_eq_some_iff.1 hzero
  have hmem : c ∈ alphabet := h c (List.mem_append_right _ (List.mem_of_head? hc))
  rw [← digitChar_idxOf hmem, hindex, digitChar_zero] at hc
  exact hrest hc

/-- A text that spells a byte string is the one that the byte string is written as. -/
theorem Spells.encode_eq {s : String} {bs : Bytes} (h : Spells s bs) : encode bs = s := by
  obtain ⟨k, rest, rfl, hrest⟩ := exists_zeros_append 0 bs
  obtain ⟨j, cs, hs, hcs, hvalues, hhead⟩ := exists_ones_append h.digits
  obtain rfl : j = k := by
    have := h.zeros
    rwa [hs, takeWhile_zeros_append hcs, takeWhile_zeros_append hrest, List.length_replicate,
      List.length_replicate] at this
  have hmem : ∀ c ∈ cs, c ∈ alphabet := fun c hc =>
    h.digits c (hs ▸ List.mem_append_right _ hc)
  have hdigits : Radix.digits 58 (Bytes.toNatBE rest) = cs.map (alphabet.idxOf ·) := by
    have hnumber := h.number
    rw [hvalues, Radix.ofDigits_zeros_append, Bytes.toNatBE_zeros_append] at hnumber
    rw [← hnumber]
    refine Radix.digits_ofDigits (by omega) (fun d hd => ?_) hhead
    obtain ⟨c, hc, rfl⟩ := List.mem_map.1 hd
    exact length_alphabet ▸ List.idxOf_lt_length_of_mem (hmem c hc)
  have hcs : (cs.map (alphabet.idxOf ·)).map digitChar = cs := by
    rw [List.map_map]
    exact (List.map_congr_left fun c hc => digitChar_idxOf (hmem c hc)).trans (List.map_id _)
  rw [encode, chars_eq j hrest, hdigits, List.map_append, List.map_replicate, digitChar_zero, hcs,
    ← hs, String.ofList_toList]

/-- What is read is spelt by the text. -/
theorem spells_of_decode {s : String} {bs : Bytes} (h : decode s = .ok bs) : Spells s bs := by
  rw [decode] at h
  cases hvalues : valuesFrom 0 s.toList with
  | error e => simp [hvalues, Except.map] at h
  | ok ds =>
    obtain rfl : ofValues ds = bs := by simpa [hvalues, Except.map] using h
    obtain ⟨hall, rfl⟩ := valuesFrom_eq_ok hvalues
    obtain ⟨k, cs, hs, hcs, hcut, hhead⟩ := exists_ones_append hall
    rw [hcut, ofValues_zeros_append k hhead]
    refine ⟨hall, ?_, ?_⟩
    · rw [hs, takeWhile_zeros_append hcs, takeWhile_zeros_append (Bytes.head_minimalBE_ne_zero _),
        List.length_replicate, List.length_replicate]
    · rw [hcut, Radix.ofDigits_zeros_append, Bytes.toNatBE_zeros_append, Bytes.toNatBE_minimalBE]

/-- **Exactly the text that spells a byte string is read as it.** -/
theorem decode_eq_ok_iff {s : String} {bs : Bytes} : decode s = .ok bs ↔ Spells s bs :=
  ⟨spells_of_decode, fun h => h.encode_eq ▸ decode_encode bs⟩

end Base58

namespace Address

/-- Reading the text of an address gives it back. -/
theorem ofText_text (a : Address) : ofText a.text = .ok a := by
  unfold ofText text
  rw [Base58.decode_encode]
  exact dif_pos a.length_eq

/-- Exactly the texts that spell the bytes of an address are read as it. -/
theorem ofText_eq_ok_iff {s : String} {a : Address} :
    ofText s = .ok a ↔ Base58.Spells s a.bytes := by
  constructor
  · intro h
    unfold ofText at h
    cases hs : Base58.decode s with
    | error e => simp [hs] at h
    | ok bs =>
      by_cases hlength : bs.length = 32
      · simp only [hs, dif_pos hlength] at h
        obtain rfl := Except.ok.inj h
        exact Base58.spells_of_decode hs
      · simp [hs, hlength] at h
  · intro h
    unfold ofText
    rw [Base58.decode_eq_ok_iff.2 h]
    exact dif_pos a.length_eq

end Address

end ShardClient
