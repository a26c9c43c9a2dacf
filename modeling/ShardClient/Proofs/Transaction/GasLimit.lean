/-
Gas limits are exact sums, cut once.

Every sum and product of gas stops at the greatest quantity, and a gas limit is made by many of
them: products inside of sums, sums of sums, and a sum along a list.  Where one of them stops, all
that follow stop as well, for nothing is ever taken away.  So it makes no difference whether each
step is cut or only the last one, and a gas limit is the sum that one would write down without any
bound, unless that is too great.
-/
import Mathlib.Algebra.GroupWithZero.Nat
import Mathlib.Algebra.Order.BigOperators.Group.List
import Mathlib.Algebra.Order.Group.Nat
import ShardClient.Proofs.Transaction.Moved

namespace ShardClient

namespace Gas

/-- The quantity stands for the number: it is the number itself, or the greatest quantity if the
number is beyond. -/
def Cut (g : Gas) (n : Nat) : Prop := g.toNat = min (2 ^ 64 - 1) n

variable {a b g : Gas} {m n : Nat}

/-! ### One step -/

theorem Cut.self (g : Gas) : Cut g g.toNat :=
  (Nat.min_eq_right (Nat.le_pred_of_lt g.toNat_lt)).symm

theorem cut_ofNatSat (n : Nat) : Cut (ofNatSat n) n :=
  (toNat_ofNatSat n).trans (Nat.min_comm _ _)

theorem Cut.plus (ha : Cut a m) (hb : Cut b n) : Cut (a.plus b) (m + n) := by
  unfold Cut at *
  rw [toNat_plus, ha, hb]
  show min _ (2 ^ 64 - 1) = _
  omega

/-- Cutting a factor makes no difference, since a factor that is cut is zero only if it was. -/
theorem min_mul_min (cap m n : Nat) : min cap (min cap m * min cap n) = min cap (m * n) := by
  have habsorb : ∀ {x y : Nat}, cap ≤ x → 0 < y → cap ≤ x * y := fun hx hy =>
    Nat.le_trans hx (Nat.le_mul_of_pos_right _ hy)
  rcases Nat.eq_zero_or_pos cap with rfl | hcap
  · rw [Nat.zero_min, Nat.zero_min]
  rcases Nat.eq_zero_or_pos m with rfl | hm
  · rw [Nat.min_zero, Nat.zero_mul, Nat.zero_mul]
  rcases Nat.eq_zero_or_pos n with rfl | hn
  · rw [Nat.min_zero, Nat.mul_zero, Nat.mul_zero]
  rcases Nat.le_total m cap with hm' | hm'
  · rw [Nat.min_eq_right hm']
    rcases Nat.le_total n cap with hn' | hn'
    · rw [Nat.min_eq_right hn']
    · rw [Nat.min_eq_left hn', Nat.mul_comm m cap, Nat.mul_comm m n,
        Nat.min_eq_left (habsorb (Nat.le_refl cap) hm), Nat.min_eq_left (habsorb hn' hm)]
  · rw [Nat.min_eq_left hm', Nat.min_eq_left (habsorb (Nat.le_refl cap) (Nat.lt_min.2 ⟨hcap, hn⟩)),
      Nat.min_eq_left (habsorb hm' hn)]

theorem Cut.times (ha : Cut a m) (hb : Cut b n) : Cut (a.times b) (m * n) := by
  unfold Cut at *
  rw [toNat_times, ha, hb, Nat.min_comm]
  exact min_mul_min _ m n

/-! ### Many steps -/

/-- A sum along a list, from what has been summed up before. -/
theorem Cut.foldl_plus {α : Type} (gas : α → Gas) (items : List α) (h : Cut g n) :
    Cut (items.foldl (fun total item => total.plus (gas item)) g)
      (n + (items.map fun item => (gas item).toNat).sum) := by
  induction items generalizing g n with
  | nil => exact h
  | cons item items ih =>
    rw [List.foldl_cons, List.map_cons, List.sum_cons, ← Nat.add_assoc]
    exact ih (h.plus (.self (gas item)))

/-- What stands for a number covers every quantity up to it. -/
theorem Cut.covers {part : Gas} (h : Cut g n) (hle : part.toNat ≤ n) : part ≤ g := by
  rw [UInt64.le_iff_toNat_le, h]
  exact Nat.le_min.2 ⟨Nat.le_pred_of_lt part.toNat_lt, hle⟩

end Gas

/-! ### Payloads -/

/-- What it takes to carry a payload of the given length, without a bound. -/
def FeeSchedule.carriage (fees : FeeSchedule) (length : Nat) : Nat :=
  fees.minGas.toNat + fees.gasPerByte.toNat * length

/-- What a transfer of some entries takes beside that, without a bound. -/
def FeeSchedule.bundled (fees : FeeSchedule) (entries : Nat) : Nat :=
  entries * fees.bundleGas.toNat + fees.bundleExtraGas.toNat

variable (fees : FeeSchedule)

theorem FeeSchedule.cut_gasToCarry (length : Nat) :
    (fees.gasToCarry length).Cut (fees.carriage length) :=
  (Gas.Cut.self fees.minGas).plus ((Gas.Cut.self fees.gasPerByte).times (Gas.cut_ofNatSat length))

namespace Draft

variable (sender receiver relayer : Address)

/-! ### Transfers -/

theorem cut_carrying (data : Bytes) {extra : Gas} {n : Nat} (h : extra.Cut n) :
    let d := carrying fees sender receiver data extra
    d.gasLimit.Cut (fees.carriage d.data.length + n) :=
  (fees.cut_gasToCarry data.length).plus h

theorem cut_nativeTransfer (amount : Amount) :
    (nativeTransfer fees sender receiver amount).gasLimit.Cut fees.minGas.toNat := by
  have hcut : (nativeTransfer fees sender receiver amount).gasLimit.Cut (fees.carriage 0) :=
    cut_carrying fees sender receiver [] (Gas.Cut.self 0)
  rw [FeeSchedule.carriage, Nat.mul_zero] at hcut
  exact hcut

theorem cut_bundleTransfer (ts : List TokenTransfer) :
    let d := bundleTransfer fees sender receiver ts
    d.gasLimit.Cut (fees.carriage d.data.length + fees.bundled ts.length) := by
  refine cut_carrying fees sender sender _ ?_
  rw [FeeSchedule.bundled, Nat.mul_comm]
  exact ((Gas.Cut.self _).times (Gas.cut_ofNatSat ts.length)).plus (.self _)

theorem tokenTransfer_single (identifier : String) (amount : Amount) :
    tokenTransfer fees sender receiver [⟨⟨identifier, 0⟩, amount⟩]
      = carrying fees sender receiver
        (Payload.join "ESDTTransfer" [Payload.name identifier, Payload.unsigned amount])
        (fees.tokenTransferGas.plus fees.tokenTransferExtraGas) := by
  unfold tokenTransfer
  exact if_pos rfl

theorem cut_single (identifier : String) (amount : Amount) :
    let d := tokenTransfer fees sender receiver [⟨⟨identifier, 0⟩, amount⟩]
    d.gasLimit.Cut (fees.carriage d.data.length +
      (fees.tokenTransferGas.toNat + fees.tokenTransferExtraGas.toNat)) := by
  have hextra : (fees.tokenTransferGas.plus fees.tokenTransferExtraGas).Cut
      (fees.tokenTransferGas.toNat + fees.tokenTransferExtraGas.toNat) :=
    (Gas.Cut.self _).plus (.self _)
  rw [tokenTransfer_single]
  exact cut_carrying fees sender receiver _ hextra

/-- All entries but a single fungible one are bundled. -/
theorem tokenTransfer_eq_bundleTransfer {ts : List TokenTransfer}
    (h : ∀ identifier amount, ts ≠ [⟨⟨identifier, 0⟩, amount⟩]) :
    tokenTransfer fees sender receiver ts = bundleTransfer fees sender receiver ts := by
  unfold tokenTransfer
  split
  · next single =>
    obtain ⟨⟨identifier, nonce⟩, amount⟩ := single
    rw [if_neg]
    rintro rfl
    exact h identifier amount rfl
  · rfl

/-- A native amount beside tokens is one entry more. -/
theorem transfer_eq_tokenTransfer {ts : List TokenTransfer} (h : ts ≠ []) (amount : Amount) :
    transfer fees sender receiver amount ts
      = tokenTransfer fees sender receiver (ts ++ nativeEntry amount ts) := by
  unfold transfer nativeEntry
  rw [if_neg (by simpa using h)]
  by_cases hzero : amount = 0
  · rw [if_pos hzero, if_neg (by simp [hzero]), List.append_nil]
  · rw [if_neg hzero, if_pos ⟨hzero, h⟩, tokenTransfer_eq_bundleTransfer]
    intro identifier single hsingle
    have hlength := congrArg List.length hsingle
    rw [List.length_append] at hlength
    exact h (List.length_eq_zero_iff.1 (Nat.succ.inj hlength))

/-! ### Envelopes -/

theorem cut_envelope (inner : Signed) (data : Bytes) (gas : Gas) :
    let d := envelope fees relayer inner data gas
    d.gasLimit.Cut (fees.carriage d.data.length + gas.toNat) :=
  (fees.cut_gasToCarry data.length).plus (.self gas)

/-- An envelope of version two is made around a transaction without gas, and around no other. -/
theorem cut_relayedV2 (inner : Signed) (gas : Gas) :
    match relayedV2 fees inner gas relayer with
    | .ok d => d.gasLimit.Cut (fees.carriage d.data.length + gas.toNat)
    | .error _ => inner.body.gasLimit ≠ 0 := by
  cases hr : relayedV2 fees inner gas relayer with
  | ok d =>
    obtain ⟨-, rfl⟩ := relayedV2_eq_ok.1 hr
    exact cut_envelope fees relayer inner _ gas
  | error e => exact (relayedV2_eq_error.1 hr).1

/-- The gas that the transactions have of their own, without a bound. -/
def innerGas (inners : List Signed) : Nat := (inners.map fun t => t.body.gasLimit.toNat).sum

/-- An envelope of version three is made around transactions that name the relayer, if there are
any. -/
theorem cut_relayedV3 (inners : List Signed) :
    match relayedV3 fees relayer inners with
    | .ok d => d.inner = inners ∧
        d.gasLimit.Cut (inners.length * fees.minGas.toNat + innerGas inners)
    | .error _ => inners = [] ∨ ∃ t ∈ inners, t.body.relayer ≠ some relayer := by
  have hsum := (Gas.Cut.self 0).foldl_plus (fun t : Signed => t.body.gasLimit) inners
  rw [show (0 : Gas).toNat = 0 from rfl, Nat.zero_add] at hsum
  have hcount := (Gas.Cut.self fees.minGas).times (Gas.cut_ofNatSat inners.length)
  rw [Nat.mul_comm] at hcount
  cases hr : relayedV3 fees relayer inners with
  | ok d =>
    obtain ⟨-, -, rfl⟩ := relayedV3_eq_ok.1 hr
    exact ⟨rfl, hcount.plus hsum⟩
  | error e =>
    rcases relayedV3_eq_error hr with ⟨hnone, -⟩ | ⟨t, ht, hother, -⟩
    · exact .inl hnone
    · exact .inr ⟨t, ht, hother⟩

end Draft

/-- **Gas limits are exact sums, cut once at the greatest quantity**, whatever the fees are.  A
native transfer takes the least gas; a single fungible token and a bundle of entries take what
their payload takes and what is charged for them, and a transfer of tokens is one of the two, with
one entry more if a native amount goes along.  Envelopes of version one and two take what their
payload takes and the gas of the transaction inside, or what is given for it; one of version three
takes the least gas for each transaction inside, and the gas of all.  So envelopes of version one
and three have at least the gas of every transaction that they carry. -/
theorem gas_limits_cut_once (fees : FeeSchedule) :
    (∀ sender receiver amount,
      (Draft.nativeTransfer fees sender receiver amount).gasLimit.Cut fees.minGas.toNat) ∧
    (∀ sender receiver identifier amount,
      let d := Draft.tokenTransfer fees sender receiver [⟨⟨identifier, 0⟩, amount⟩]
      d.gasLimit.Cut (fees.carriage d.data.length +
        (fees.tokenTransferGas.toNat + fees.tokenTransferExtraGas.toNat))) ∧
    (∀ sender receiver ts, (∀ identifier amount, ts ≠ [⟨⟨identifier, 0⟩, amount⟩]) →
      let d := Draft.tokenTransfer fees sender receiver ts
      d.gasLimit.Cut (fees.carriage d.data.length + fees.bundled ts.length)) ∧
    (∀ sender receiver amount ts, Draft.transfer fees sender receiver amount ts =
      if ts = [] then Draft.nativeTransfer fees sender receiver amount
      else Draft.tokenTransfer fees sender receiver (ts ++ nativeEntry amount ts)) ∧
    (∀ inner relayer,
      let d := Draft.relayedV1 fees inner relayer
      d.gasLimit.Cut (fees.carriage d.data.length + inner.body.gasLimit.toNat) ∧
        inner.body.gasLimit ≤ d.gasLimit) ∧
    (∀ inner gas relayer,
      match Draft.relayedV2 fees inner gas relayer with
      | .ok d => d.gasLimit.Cut (fees.carriage d.data.length + gas.toNat)
      | .error _ => inner.body.gasLimit ≠ 0) ∧
    ∀ relayer inners,
      match Draft.relayedV3 fees relayer inners with
      | .ok d => d.gasLimit.Cut (inners.length * fees.minGas.toNat + Draft.innerGas inners) ∧
          d.inner = inners ∧ ∀ t ∈ inners, t.body.gasLimit ≤ d.gasLimit
      | .error _ => inners = [] ∨ ∃ t ∈ inners, t.body.relayer ≠ some relayer := by
  refine ⟨Draft.cut_nativeTransfer fees, Draft.cut_single fees, ?_, ?_, ?_,
    fun inner gas relayer => Draft.cut_relayedV2 fees relayer inner gas, ?_⟩
  · intro sender receiver ts hts
    rw [Draft.tokenTransfer_eq_bundleTransfer fees sender receiver hts]
    exact Draft.cut_bundleTransfer fees sender receiver ts
  · intro sender receiver amount ts
    by_cases hnone : ts = []
    · rw [if_pos hnone, hnone]
      rfl
    · rw [if_neg hnone]
      exact Draft.transfer_eq_tokenTransfer fees sender receiver hnone amount
  · intro inner relayer d
    have hcut : d.gasLimit.Cut (fees.carriage d.data.length + inner.body.gasLimit.toNat) :=
      Draft.cut_envelope fees relayer inner _ _
    exact ⟨hcut, hcut.covers (Nat.le_add_left _ _)⟩
  · intro relayer inners
    have hcut := Draft.cut_relayedV3 fees relayer inners
    cases hr : Draft.relayedV3 fees relayer inners with
    | error e =>
      rw [hr] at hcut
      exact hcut
    | ok d =>
      rw [hr] at hcut
      refine ⟨hcut.2, hcut.1, fun t ht => hcut.2.covers ?_⟩
      have hpart : t.body.gasLimit.toNat ≤ Draft.innerGas inners :=
        List.le_sum_of_mem (List.mem_map_of_mem ht)
      exact Nat.le_trans hpart (Nat.le_add_left _ _)

end ShardClient
