/-
What an envelope of version two does not show.

Its payload lists the receiver, the nonce and the payload of the transaction inside, and its
signature.  The sender, the gas price, the chain and the version of the transaction inside are
those of the envelope, and all other fields are fixed, but for one: the value.  The envelope
moves nothing itself, so two envelopes can be alike in all that they show, up to the signature,
around transactions that move different amounts; and then what was signed differs.
-/
import ShardClient.Proofs.Composer.Envelope
import ShardClient.Proofs.Transaction.Moved
import ShardClient.Simulation.Network

namespace ShardClient

/-- The two transactions show the same to whoever executes them, but for their nonces, their gas
and the last argument of their payloads. -/
structure Signed.Alike (t u : Signed) : Prop where
  sender : t.sender = u.sender
  receiver : t.body.receiver = u.body.receiver
  value : t.body.value = u.body.value
  gasPrice : t.body.gasPrice = u.body.gasPrice
  chainId : t.body.chainId = u.body.chainId
  version : t.body.version = u.body.version
  arguments : (Payload.parts t.body.data).dropLast = (Payload.parts u.body.data).dropLast

/-! ### One call -/

/-- The draft of the transaction inside an envelope of version two. -/
def RelayedCall.draftV2 (c : Composer) (sender : Account) (receiver : Address) (amount : Amount) :
    Draft :=
  { Draft.nativeTransfer c.fees sender.address receiver amount with gasLimit := 0 }

/-- An envelope of version two around a transaction, as it is made in a call. -/
structure Conveys (c : Composer) (relayer sender : Account) (receiver : Address) (amount : Amount)
    (i t : Signed) : Prop where
  inside : (RelayedCall.draftV2 c sender receiver amount).Becomes i
  envelope : ∃ d, Draft.relayedV2 c.fees i Composer.relayedV2InnerGas relayer.address = .ok d ∧
    d.Becomes t

variable {σ : Type} {host : Host (StateM σ)} {c : Composer} {relayer sender : Account}
  {receiver : Address} {amount : Amount} {i t : Signed}

/-- A call makes one transaction, and then the envelope around it. -/
theorem RelayedCall.conveys {s after : Moment σ}
    (h : Run.runFrom ((moveV2 relayer sender receiver amount).perform c host) s = (.ok t, after)) :
    ∃ i between,
      Run.runFrom ((moveV2 relayer sender receiver amount).inside c host) s
        = (.ok ⟨t.nonce, [i]⟩, between) ∧
      Conveys c relayer sender receiver amount i t := by
  obtain ⟨⟨nonce, inners⟩, between, hinside, henclose⟩ := perform_eq_ok h
  obtain ⟨d, hd, hsigns⟩ := returns_enclose _ _ _ _ henclose
  have hdrafts : Returns ((moveV2 relayer sender receiver amount).drafts c
      : Run (StateM σ) (List Draft)) fun ds => ds = [draftV2 c sender receiver amount] :=
    returns_pure rfl
  obtain ⟨_, rfl, hsigned⟩ := returns_inside host hdrafts _ _ _ hinside
  obtain ⟨i, rest, ⟨n, hi⟩, hnil, hmade⟩ := List.forall₂_cons_left_iff.1 hsigned
  rw [List.forall₂_nil_left_iff.1 hnil] at hmade
  obtain rfl : inners = [i] := hmade
  obtain rfl : t.nonce = nonce := congrArg (·.nonce) hsigns.unsigned
  exact ⟨i, between, hinside, hi.becomes, d, hd, hsigns.becomes⟩

/-- The transaction inside. -/
theorem Conveys.body (h : Conveys c relayer sender receiver amount i t) :
    i.body =
      { sender := sender.address
        receiver := receiver
        value := amount
        gasPrice := c.fees.gasPrice
        chainId := c.fees.chainId } :=
  h.inside.body

/-- What the envelope shows of itself, and of the transaction inside. -/
theorem Conveys.shown (h : Conveys c relayer sender receiver amount i t) :
    t.sender = relayer.address ∧ t.body.receiver = sender.address ∧ t.body.value = 0 ∧
      t.body.gasPrice = c.fees.gasPrice ∧ t.body.chainId = c.fees.chainId ∧ t.body.version = 2 ∧
      (Payload.parts t.body.data).dropLast = List.map Utf8.encode
        ["relayedTxV2", receiver.hex, Payload.unsigned64 i.nonce, Hex.encode []] := by
  obtain ⟨d, hd, becomes⟩ := h.envelope
  obtain ⟨-, rfl⟩ := Draft.relayedV2_eq_ok.1 hd
  rw [becomes.sender, becomes.body]
  refine ⟨rfl, ?_, rfl, ?_, rfl, rfl, ?_⟩
  · show i.body.sender = _
    rw [h.body]
  · show i.body.gasPrice = _
    rw [h.body]
  · rw [Draft.envelope_data, Signature.hex, Payload.parts_listed, h.body]
    rfl

/-! ### Two calls -/

section

variable {c' : Composer} {relayer' sender' : Account} {receiver' : Address} {amount' : Amount}
  {i' t' : Signed}

/-- Envelopes are alike if they are of one relayer around transactions that differ at most in
their value, and in no other case. -/
theorem Conveys.alike_iff (h : Conveys c relayer sender receiver amount i t)
    (h' : Conveys c' relayer' sender' receiver' amount' i' t') :
    t.Alike t' ↔
      t.sender = t'.sender ∧ i.nonce = i'.nonce ∧ { i.body with value := amount' } = i'.body := by
  obtain ⟨-, hreceiver, hvalue, hprice, hchain, hversion, hparts⟩ := h.shown
  obtain ⟨-, hreceiver', hvalue', hprice', hchain', hversion', hparts'⟩ := h'.shown
  constructor
  · intro alike
    have hsenders : sender.address = sender'.address := by
      rw [← hreceiver, ← hreceiver', alike.receiver]
    have hprices : c.fees.gasPrice = c'.fees.gasPrice := by
      rw [← hprice, ← hprice', alike.gasPrice]
    have hchains : c.fees.chainId = c'.fees.chainId := by
      rw [← hchain, ← hchain', alike.chainId]
    have harguments := alike.arguments
    rw [hparts, hparts'] at harguments
    simp only [List.map_cons, List.cons.injEq] at harguments
    obtain ⟨-, hhex, hnumber, -⟩ := harguments
    have hreceivers : some receiver = some receiver' := by
      rw [← Payload.address?_hex, hhex, Payload.address?_hex]
    have hnonces : some i.nonce = some i'.nonce := by
      rw [← Payload.nonce?_unsigned64, hnumber, Payload.nonce?_unsigned64]
    refine ⟨alike.sender, Option.some.inj hnonces, ?_⟩
    rw [h.body, h'.body, hsenders, hprices, hchains, Option.some.inj hreceivers]
  · rintro ⟨hsender, hnonce, hbody⟩
    rw [h.body, h'.body] at hbody
    have hsenders : sender.address = sender'.address := congrArg Body.sender hbody
    have hreceivers : receiver = receiver' := congrArg Body.receiver hbody
    have hprices : c.fees.gasPrice = c'.fees.gasPrice := congrArg Body.gasPrice hbody
    have hchains : c.fees.chainId = c'.fees.chainId := congrArg Body.chainId hbody
    refine ⟨hsender, ?_, ?_, ?_, ?_, ?_, ?_⟩
    · rw [hreceiver, hreceiver', hsenders]
    · rw [hvalue, hvalue']
    · rw [hprice, hprice', hprices]
    · rw [hchain, hchain', hchains]
    · rw [hversion, hversion']
    · rw [hparts, hparts', hreceivers, hnonce]

/-- Around transactions that were signed alike, the amounts are the same. -/
theorem Conveys.signingBytes_iff (h : Conveys c relayer sender receiver amount i t)
    (h' : Conveys c' relayer' sender' receiver' amount' i' t') (alike : t.Alike t') :
    i.unsigned.signingBytes = i'.unsigned.signingBytes ↔ amount = amount' := by
  have hvalue : i.body.value = amount := by rw [h.body]
  have hvalue' : i'.body.value = amount' := by rw [h'.body]
  constructor
  · intro hsigned
    have hunsigned := Numbered.eq_of_signingBytes hsigned
    calc amount = i.unsigned.draft.value := hvalue.symm
      _ = i'.unsigned.draft.value := by rw [hunsigned]
      _ = amount' := hvalue'
  · rintro rfl
    obtain ⟨-, hnonce, hbody⟩ := (h.alike_iff h').1 alike
    have hinner : i.inner = i'.inner := by rw [h.inside.inner, h'.inside.inner]; rfl
    have hsame : i.body = i'.body := by rw [← hbody, ← hvalue]
    rw [Signed.unsigned, Signed.unsigned, hnonce, hsame, hinner]

end

/-- **An envelope of version two conceals the amount, and nothing else.**  Two calls make alike
envelopes if they have the same relayer and the transactions inside differ at most in their
value, and in no other case; and behind alike envelopes the same was signed only if the amounts
are the same. -/
theorem amount_concealed {σ τ : Type} {host : Host (StateM σ)} {host' : Host (StateM τ)}
    {c c' : Composer} {relayer relayer' sender sender' : Account} {receiver receiver' : Address}
    {amount amount' : Amount} {s after : Moment σ} {s' after' : Moment τ} {t t' : Signed}
    (h : Run.runFrom ((RelayedCall.moveV2 relayer sender receiver amount).perform c host) s
      = (.ok t, after))
    (h' : Run.runFrom ((RelayedCall.moveV2 relayer' sender' receiver' amount').perform c' host') s'
      = (.ok t', after')) :
    ∃ i i' between between',
      Run.runFrom ((RelayedCall.moveV2 relayer sender receiver amount).inside c host) s
        = (.ok ⟨t.nonce, [i]⟩, between) ∧
      Run.runFrom ((RelayedCall.moveV2 relayer' sender' receiver' amount').inside c' host') s'
        = (.ok ⟨t'.nonce, [i']⟩, between') ∧
      i.body.value = amount ∧ i'.body.value = amount' ∧
      (t.Alike t' ↔
        t.sender = t'.sender ∧ i.nonce = i'.nonce ∧ { i.body with value := amount' } = i'.body) ∧
      (t.Alike t' → (i.unsigned.signingBytes = i'.unsigned.signingBytes ↔ amount = amount')) := by
  obtain ⟨i, between, hinside, conveys⟩ := RelayedCall.conveys h
  obtain ⟨i', between', hinside', conveys'⟩ := RelayedCall.conveys h'
  exact ⟨i, i', between, between', hinside, hinside', congrArg Body.value conveys.body,
    congrArg Body.value conveys'.body, conveys.alike_iff conveys',
    conveys.signingBytes_iff conveys'⟩

/-! ### Two amounts -/

/-- A call of one user that another relays. -/
def RelayedCall.smallMove (amount : Amount) : RelayedCall :=
  moveV2 (Account.ofSigner (Signer.blank 2)) (Account.ofSigner (Signer.blank 3)) Address.tokenSystem
    amount

/-- Two amounts that are moved from the same moment on. -/
theorem amount_concealed_five_seven :
    let host := Simulation.host
    let start : Moment Simulation := ⟨{}, {}⟩
    ∃ t t' after after',
      Run.runFrom ((RelayedCall.smallMove 5).perform Composer.small host) start = (.ok t, after) ∧
      Run.runFrom ((RelayedCall.smallMove 7).perform Composer.small host) start = (.ok t', after') ∧
      ∃ i i' between between',
        Run.runFrom ((RelayedCall.smallMove 5).inside Composer.small host) start
          = (.ok ⟨t.nonce, [i]⟩, between) ∧
        Run.runFrom ((RelayedCall.smallMove 7).inside Composer.small host) start
          = (.ok ⟨t'.nonce, [i']⟩, between') ∧
        i.body.value = 5 ∧ i'.body.value = 7 ∧
        (t.Alike t' ↔
          t.sender = t'.sender ∧ i.nonce = i'.nonce ∧ { i.body with value := 7 } = i'.body) ∧
        (t.Alike t' → (i.unsigned.signingBytes = i'.unsigned.signingBytes ↔ (5 : Amount) = 7)) := by
  intro host start
  obtain ⟨t, after, h⟩ : ∃ t after,
      Run.runFrom ((RelayedCall.smallMove 5).perform Composer.small host) start = (.ok t, after) :=
    Run.exists_of_isOk (by decide +kernel)
  obtain ⟨t', after', h'⟩ : ∃ t after,
      Run.runFrom ((RelayedCall.smallMove 7).perform Composer.small host) start = (.ok t, after) :=
    Run.exists_of_isOk (by decide +kernel)
  exact ⟨t, t', after, after', h, h', amount_concealed h h'⟩

/-- Such a call, once it is finished, has made one transaction, and an envelope around it. -/
theorem RelayedCall.smallMove_conveys {amount : Amount} {t : Signed} {s after : Moment Simulation}
    (h : Run.runFrom ((smallMove amount).perform Composer.small Simulation.host) s
      = (.ok t, after)) :
    ∃ i between,
      Run.runFrom ((smallMove amount).inside Composer.small Simulation.host) s
        = (.ok ⟨t.nonce, [i]⟩, between) ∧
      Conveys Composer.small (Account.ofSigner (Signer.blank 2)) (Account.ofSigner (Signer.blank 3))
        Address.tokenSystem amount i t :=
  conveys h

/-- The first nonce of those inside, from what a call is seen to make. -/
theorem Contents.first_nonce {x : Run (StateM Simulation) Contents} {s between : Moment Simulation}
    {nonce n : UInt64} {i : Signed} (h : Run.runFrom x s = (.ok ⟨nonce, [i]⟩, between))
    (hn : (Run.runFrom x s).1.toOption.map (fun made => made.inners.map (·.nonce)) = some [n]) :
    i.nonce = n := by
  rw [h] at hn
  simpa [Except.toOption] using hn

/-- It is not so that an envelope shows all that was signed inside it: these two are alike, and
what was signed differs. -/
theorem alike_around_different_texts :
    let host := Simulation.host
    let start : Moment Simulation := ⟨{}, {}⟩
    ∃ t t' after after' i i' between between',
      Run.runFrom ((RelayedCall.smallMove 5).perform Composer.small host) start = (.ok t, after) ∧
      Run.runFrom ((RelayedCall.smallMove 7).perform Composer.small host) start = (.ok t', after') ∧
      Run.runFrom ((RelayedCall.smallMove 5).inside Composer.small host) start
        = (.ok ⟨t.nonce, [i]⟩, between) ∧
      Run.runFrom ((RelayedCall.smallMove 7).inside Composer.small host) start
        = (.ok ⟨t'.nonce, [i']⟩, between') ∧
      t.Alike t' ∧ i.unsigned.signingBytes ≠ i'.unsigned.signingBytes := by
  intro host start
  obtain ⟨t, after, h⟩ : ∃ t after,
      Run.runFrom ((RelayedCall.smallMove 5).perform Composer.small host) start = (.ok t, after) :=
    Run.exists_of_isOk (by decide +kernel)
  obtain ⟨t', after', h'⟩ : ∃ t after,
      Run.runFrom ((RelayedCall.smallMove 7).perform Composer.small host) start = (.ok t, after) :=
    Run.exists_of_isOk (by decide +kernel)
  obtain ⟨i, between, hinside, conveys⟩ := RelayedCall.smallMove_conveys h
  obtain ⟨i', between', hinside', conveys'⟩ := RelayedCall.smallMove_conveys h'
  have hnonce : i.nonce = 0 := Contents.first_nonce hinside (by decide +kernel)
  have hnonce' : i'.nonce = 0 := Contents.first_nonce hinside' (by decide +kernel)
  have alike : t.Alike t' := by
    refine (conveys.alike_iff conveys').2 ⟨?_, hnonce.trans hnonce'.symm, ?_⟩
    · rw [conveys.shown.1, conveys'.shown.1]
    · rw [conveys.body, conveys'.body]
  refine ⟨t, t', after, after', i, i', between, between', h, h', hinside, hinside', alike, ?_⟩
  rw [Ne, conveys.signingBytes_iff conveys' alike]
  decide

end ShardClient
