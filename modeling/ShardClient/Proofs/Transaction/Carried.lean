/-
The transactions inside an envelope, as the envelope alone shows them.

An envelope of version one embeds a transaction whole: its payload is the text that would have
been sent.  One of version two lists the receiver, the nonce, the payload and the signature; the
sender is the receiver of the envelope.  One of version three has a list of transactions.
Reading them back needs nothing but the envelope, so what is said of the transactions inside
does not depend on how it was made.
-/
import ShardClient.Issuance
import ShardClient.Contract
import ShardClient.Proofs.Transaction.Unambiguous
import ShardClient.Relay
import ShardClient.Transfer

namespace ShardClient

/-! ### The parts of a payload -/

namespace Payload

/-- The parts of a payload: its head and its arguments. -/
def parts (data : Bytes) : List Bytes := data.splitOn 0x40

theorem encode_text (head : String) (arguments : List String) :
    Utf8.encode (text head arguments)
      = Utf8.encode head ++ arguments.flatMap fun a => 0x40 :: Utf8.encode a := by
  induction arguments generalizing head with
  | nil => simp [text]
  | cons a arguments ih =>
    have hat : Utf8.encode "@" = [0x40] := by decide
    have htext : text head (a :: arguments) = text (head ++ "@" ++ a) arguments := rfl
    rw [htext, ih, Utf8.encode_append, Utf8.encode_append, hat]
    simp

/-- The parts of a payload are its head and its arguments, if none has an at sign. -/
theorem parts_join {head : String} {arguments : List String}
    (h : ∀ part ∈ head :: arguments, (0x40 : UInt8) ∉ Utf8.encode part) :
    parts (join head arguments) = (head :: arguments).map Utf8.encode := by
  rw [List.forall_mem_cons] at h
  rw [parts, join, encode_text]
  induction arguments generalizing head with
  | nil => simpa using List.splitOn_eq_singleton h.1
  | cons a arguments ih =>
    rw [List.forall_mem_cons] at h
    rw [List.flatMap_cons, List.cons_append, List.splitOn_append_cons_self_of_not_mem h.1, ih h.2]
    rfl

/-- Digits are no at signs. -/
theorem at_not_mem_hex (bs : Bytes) : (0x40 : UInt8) ∉ Utf8.encode (Hex.encode bs) := by
  have hall : ∀ d : Fin 16, (0x40 : UInt8) ≠ Hex.digitByte d.val := by decide
  intro h
  obtain ⟨d, hd⟩ := Hex.exists_digit_of_mem h
  exact hall d hd

/-- The payload of version one has one argument. -/
theorem parts_whole (wire : Bytes) :
    parts (join "relayedTx" [Hex.encode wire])
      = [Utf8.encode "relayedTx", Utf8.encode (Hex.encode wire)] := by
  refine parts_join ?_
  simp only [List.forall_mem_cons]
  exact ⟨by decide, at_not_mem_hex _, by simp⟩

/-- A number as an argument is the digits of bytes that stand for it, as few as possible. -/
theorem unsigned_eq (n : Amount) :
    ∃ bs, unsigned n = Hex.encode bs ∧ Bytes.toNatBE bs = n.toNat ∧ Bytes.Minimal bs := by
  unfold unsigned
  by_cases hzero : n.toNat = 0
  · rw [if_pos hzero, hzero]
    exact ⟨[0], by decide, rfl, Bytes.minimal_zero⟩
  · rw [if_neg hzero]
    exact ⟨_, rfl, Bytes.toNatBE_minimalBE n.toNat, Bytes.minimal_minimalBE hzero⟩

/-- The same for a smaller number. -/
theorem unsigned64_eq (n : UInt64) :
    ∃ bs, unsigned64 n = Hex.encode bs ∧ Bytes.toNatBE bs = n.toNat := by
  have hlt : n.toNat < 2 ^ 128 := Nat.lt_trans n.toNat_lt (by decide)
  obtain ⟨bs, hhex, hbs, -⟩ := unsigned_eq (BitVec.ofNat 128 n.toNat)
  rw [BitVec.toNat_ofNat, Nat.mod_eq_of_lt hlt] at hbs
  exact ⟨bs, hhex, hbs⟩

/-- The payload of version two has four arguments. -/
theorem parts_listed (receiver : Address) (nonce : UInt64) (data signature : Bytes) :
    parts (join "relayedTxV2"
      [receiver.hex, unsigned64 nonce, Hex.encode data, Hex.encode signature])
      = ["relayedTxV2", receiver.hex, unsigned64 nonce, Hex.encode data,
          Hex.encode signature].map Utf8.encode := by
  refine parts_join ?_
  obtain ⟨bs, hbs, -⟩ := unsigned64_eq nonce
  rw [hbs]
  simp only [List.forall_mem_cons]
  exact ⟨by decide, at_not_mem_hex _, at_not_mem_hex _, at_not_mem_hex _, at_not_mem_hex _,
    by simp⟩

end Payload

/-! ### What relaying comes to -/

section

variable {fees : FeeSchedule} {relayer : Address} {i : Signed} {inners : List Signed} {gas : Gas}
  {d : Draft} {e : RelayError}

/-- Version two is an envelope around a transaction without gas of its own. -/
theorem Draft.relayedV2_eq_ok :
    relayedV2 fees i gas relayer = .ok d ↔ i.body.gasLimit = 0 ∧
      d = envelope fees relayer i (Payload.join "relayedTxV2"
        [i.body.receiver.hex, Payload.unsigned64 i.nonce, Hex.encode i.body.data,
          i.signature.hex]) gas := by
  unfold relayedV2
  by_cases hgas : i.body.gasLimit = 0
  · rw [if_neg (not_not_intro hgas), Except.ok.injEq, eq_comm]
    exact (and_iff_right hgas).symm
  · rw [if_pos hgas]
    simp [hgas]

theorem Draft.relayedV2_eq_error :
    relayedV2 fees i gas relayer = .error e ↔
      i.body.gasLimit ≠ 0 ∧ e = .innerGas i.body.gasLimit := by
  unfold relayedV2
  by_cases hgas : i.body.gasLimit = 0
  · rw [if_neg (not_not_intro hgas)]
    simp [hgas]
  · rw [if_pos hgas, Except.error.injEq, eq_comm]
    exact (and_iff_right hgas).symm

/-- Version three is around transactions of which there are some, and which all name the
relayer. -/
theorem Draft.relayedV3_eq_ok :
    relayedV3 fees relayer inners = .ok d ↔
      inners ≠ [] ∧ (∀ t ∈ inners, t.body.relayer = some relayer) ∧
        d = { blank fees relayer relayer with
          gasPrice := fees.gasPrice
          gasLimit := (fees.minGas.times (Gas.ofNatSat inners.length)).plus
            (inners.foldl (fun total t => total.plus t.body.gasLimit) 0)
          inner := inners } := by
  unfold relayedV3
  by_cases hnone : inners = []
  · simp [hnone]
  rw [if_neg (by simpa using hnone)]
  cases hfind : inners.find? fun t => t.body.relayer != some relayer with
  | some t =>
    have ht := List.mem_of_find?_eq_some hfind
    have hother : t.body.relayer ≠ some relayer := by simpa using List.find?_some hfind
    simpa using fun _ hall => absurd (hall t ht) hother
  | none =>
    have hall : ∀ t ∈ inners, t.body.relayer = some relayer := by simpa using hfind
    rw [Except.ok.injEq, eq_comm]
    exact ⟨fun h => ⟨hnone, hall, h⟩, fun h => h.2.2⟩

/-- Otherwise there are none, or the first that does not name the relayer is to blame. -/
theorem Draft.relayedV3_eq_error (h : relayedV3 fees relayer inners = .error e) :
    (inners = [] ∧ e = .noInner) ∨
      ∃ t ∈ inners, t.body.relayer ≠ some relayer ∧ e = .untagged t.sender relayer := by
  unfold relayedV3 at h
  by_cases hnone : inners = []
  · rw [if_pos (List.isEmpty_iff.2 hnone)] at h
    exact .inl ⟨hnone, (Except.error.inj h).symm⟩
  rw [if_neg (by simpa using hnone)] at h
  cases hfind : inners.find? fun t => t.body.relayer != some relayer with
  | some t =>
    rw [hfind] at h
    exact .inr ⟨t, List.mem_of_find?_eq_some hfind, by simpa using List.find?_some hfind,
      (Except.error.inj h).symm⟩
  | none =>
    rw [hfind] at h
    cases h

end

/-! ### Reading an envelope -/

@[simp] theorem Draft.envelope_data (fees : FeeSchedule) (relayer : Address) (i : Signed)
    (data : Bytes) (gas : Gas) : (envelope fees relayer i data gas).data = data := rfl

theorem Address.ofBytes_bytes (a : Address) : ofBytes a.bytes = .ok a := dif_pos a.length_eq

/-- A transaction inside an envelope. -/
structure Carried where
  sender : Address
  receiver : Address
  nonce : UInt64
  deriving DecidableEq

/-- The transaction that an argument embeds whole. -/
def Carried.ofWhole? (argument : Bytes) : Option Carried := do
  let wire ← (Hex.decode argument).toOption
  let form ← (Json.parse? wire).bind WireForm.ofJson?
  some ⟨form.body.sender, form.body.receiver, form.nonce⟩

/-- The transaction of a sender that arguments describe. -/
def Carried.ofParts? (sender : Address) (receiver nonce : Bytes) : Option Carried := do
  let bytes ← (Hex.decode receiver).toOption
  let address ← (Address.ofBytes bytes).toOption
  let number ← (Hex.decode nonce).toOption
  some ⟨sender, address, UInt64.ofNat (Bytes.toNatBE number)⟩

/-- The transaction in the payload of an envelope to the given receiver. -/
def Carried.ofPayload? (receiver : Address) (data : Bytes) : Option Carried :=
  match Payload.parts data with
  | [head, argument] =>
    if head = Utf8.encode "relayedTx" then ofWhole? argument else none
  | [head, innerReceiver, nonce, _, _] =>
    if head = Utf8.encode "relayedTxV2" then ofParts? receiver innerReceiver nonce else none
  | _ => none

/-- The transaction as one inside an envelope. -/
def Signed.asCarried (t : Signed) : Carried := ⟨t.sender, t.body.receiver, t.nonce⟩

/-- The transactions inside a transaction, in order. -/
def Signed.carried (t : Signed) : List Carried :=
  (Carried.ofPayload? t.body.receiver t.body.data).toList ++ t.inner.map Signed.asCarried

namespace Carried

theorem ofWhole?_wire (t : Signed) :
    ofWhole? (Utf8.encode (Hex.encode t.wire)) = some t.asCarried := by
  rw [ofWhole?, Hex.decode_encode, Except.toOption]
  simp only [Option.bind_eq_bind, Option.bind_some, t.form_of_wire]
  rfl

theorem ofParts?_arguments (sender receiver : Address) (nonce : UInt64) :
    ofParts? sender (Utf8.encode receiver.hex) (Utf8.encode (Payload.unsigned64 nonce))
      = some ⟨sender, receiver, nonce⟩ := by
  obtain ⟨bs, hhex, hbs⟩ := Payload.unsigned64_eq nonce
  rw [ofParts?, Address.hex, hhex, Hex.decode_encode, Hex.decode_encode]
  simp only [Except.toOption, Option.bind_eq_bind, Option.bind_some, Address.ofBytes_bytes, hbs,
    UInt64.ofNat_toNat]

/-- The payload of version one is read as the transaction that it embeds. -/
theorem ofPayload?_whole (receiver : Address) (t : Signed) :
    ofPayload? receiver (Payload.join "relayedTx" [Hex.encode t.wire]) = some t.asCarried := by
  rw [ofPayload?, Payload.parts_whole]
  show (if Utf8.encode "relayedTx" = Utf8.encode "relayedTx" then _ else none) = _
  rw [if_pos rfl, ofWhole?_wire]

/-- The payload of version two is read as the transaction that it lists. -/
theorem ofPayload?_parts (sender receiver : Address) (nonce : UInt64) (data signature : Bytes) :
    ofPayload? sender (Payload.join "relayedTxV2"
      [receiver.hex, Payload.unsigned64 nonce, Hex.encode data, Hex.encode signature])
      = some ⟨sender, receiver, nonce⟩ := by
  rw [ofPayload?, Payload.parts_listed]
  show (if Utf8.encode "relayedTxV2" = Utf8.encode "relayedTxV2" then _ else none) = _
  rw [if_pos rfl, ofParts?_arguments]

/-- Payloads that carry a transaction begin with an `r`. -/
theorem ofPayload?_eq_none {data : Bytes} (receiver : Address) (h : data.head? ≠ some 0x72) :
    ofPayload? receiver data = none := by
  have hhead : ∀ (rest : Bytes) (parts : List Bytes), Payload.parts data ≠ (0x72 :: rest) :: parts := by
    intro rest parts hparts
    rw [Payload.parts, List.splitOn] at hparts
    cases data with
    | nil => simp at hparts
    | cons b data =>
      rw [List.splitOnP_cons_eq_if_modifyHead] at hparts
      split at hparts
      · simp at hparts
      · obtain ⟨p, ps, hp⟩ := List.exists_cons_of_ne_nil (List.splitOnP_ne_nil (· == 0x40) data)
        rw [hp] at hparts
        simp only [List.modifyHead_cons, List.cons.injEq] at hparts
        exact h (by rw [List.head?_cons, hparts.1.1])
  unfold ofPayload?
  split
  · next head argument hparts =>
    rw [if_neg]
    rintro rfl
    exact hhead _ _ hparts
  · next head innerReceiver nonce _ _ hparts =>
    rw [if_neg]
    rintro rfl
    exact hhead _ _ hparts
  · rfl

end Carried

/-! ### Transactions that carry none -/

/-- Nothing in the draft looks like a transaction inside it. -/
structure Draft.Plain (d : Draft) : Prop where
  inner : d.inner = []
  data : d.data.head? ≠ some 0x72

theorem Signed.carried_eq_nil {t : Signed} {d : Draft} (body : t.body = d.toBody)
    (inner : t.inner = d.inner) (h : d.Plain) : t.carried = [] := by
  rw [carried, body, inner, h.inner, Carried.ofPayload?_eq_none _ h.data]
  rfl

namespace Draft

theorem Plain.withGas {d : Draft} (h : d.Plain) (gas : Gas) : { d with gasLimit := gas }.Plain :=
  ⟨h.inner, h.data⟩

theorem plain_carrying {data : Bytes} (fees : FeeSchedule) (sender receiver : Address)
    (extra : Gas) (h : data.head? ≠ some 0x72) : (carrying fees sender receiver data extra).Plain :=
  ⟨rfl, h⟩

theorem plain_nativeTransfer (fees : FeeSchedule) (sender receiver : Address) (amount : Amount) :
    (nativeTransfer fees sender receiver amount).Plain := ⟨rfl, by simp [nativeTransfer, carrying]⟩

/-- The first byte of a payload is that of its head. -/
theorem head?_join {head : String} {b : UInt8} (arguments : List String)
    (h : (Utf8.encode head).head? = some b) : (Payload.join head arguments).head? = some b := by
  rw [Payload.join, Payload.encode_text, List.head?_append, h]
  rfl

theorem plain_bundleTransfer (fees : FeeSchedule) (sender receiver : Address)
    (transfers : List TokenTransfer) : (bundleTransfer fees sender receiver transfers).Plain := by
  refine plain_carrying fees sender sender _ ?_
  rw [head?_join (b := 0x4d) _ (by decide)]
  decide

theorem plain_tokenTransfer (fees : FeeSchedule) (sender receiver : Address)
    (transfers : List TokenTransfer) : (tokenTransfer fees sender receiver transfers).Plain := by
  unfold tokenTransfer
  split
  · split
    · refine plain_carrying fees sender receiver _ ?_
      rw [head?_join (b := 0x45) _ (by decide)]
      decide
    · exact plain_bundleTransfer fees sender receiver _
  · exact plain_bundleTransfer fees sender receiver _

theorem plain_transfer (fees : FeeSchedule) (sender receiver : Address) (amount : Amount)
    (transfers : List TokenTransfer) : (transfer fees sender receiver amount transfers).Plain := by
  unfold transfer
  split
  · exact plain_nativeTransfer fees sender receiver amount
  · split
    · exact plain_tokenTransfer fees sender receiver transfers
    · exact plain_bundleTransfer fees sender receiver _

theorem plain_issuance (fees : FeeSchedule) (sender : Address) (i : Issuance) :
    (issuance fees sender i).Plain := by
  have hdata : (issuance fees sender i).data = Payload.join "issue" i.arguments := by rw [issuance]
  refine ⟨by rw [issuance]; rfl, ?_⟩
  rw [hdata, head?_join (b := 0x69) _ (by decide)]
  decide

/-- No digit is an `r`, and neither is an at sign. -/
theorem head?_join_hex (bs : Bytes) (arguments : List String) :
    (Payload.join (Hex.encode bs) arguments).head? ≠ some 0x72 := by
  have hall : ∀ d : Fin 16, Hex.digitByte d.val ≠ 0x72 := by decide
  rw [Payload.join, Payload.encode_text]
  cases hhex : Utf8.encode (Hex.encode bs) with
  | nil => cases arguments <;> simp
  | cons b rest =>
    obtain ⟨d, rfl⟩ := Hex.exists_digit_of_mem (hhex ▸ List.mem_cons_self : b ∈ _)
    simpa using hall d

theorem plain_deployment (fees : FeeSchedule) (sender : Address) (code : Bytes) (gas : Gas)
    (arguments : List Amount) (amount : Amount) (metadata : Permissions) :
    (deployment fees sender code gas arguments amount metadata).Plain :=
  ⟨rfl, head?_join_hex code
    (machineArgument :: Hex.encode metadata.bytes :: arguments.map Payload.unsigned)⟩

theorem plain_call (fees : FeeSchedule) (sender contract : Address) {function : String}
    {b : UInt8} (gas : Gas) (arguments : List Amount) (amount : Amount)
    (h : (Utf8.encode function).head? = some b) (hb : b ≠ 0x72) :
    (call fees sender contract function gas arguments amount).Plain := by
  refine ⟨rfl, ?_⟩
  show (Payload.join function (arguments.map Payload.unsigned)).head? ≠ _
  rw [head?_join _ h]
  simpa using hb

end Draft

end ShardClient
