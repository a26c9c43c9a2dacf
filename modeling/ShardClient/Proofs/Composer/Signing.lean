/-
Signatures verify.

Who signs is settled by a lookup: the account that is found under the address of the sender.  A
registry that is made from keys finds under an address only accounts whose key belongs to that
address, also if a key comes twice; so it does not matter which account was passed to a builder,
or whether its signer could sign at all.  Of the scheme it is assumed only that it is correct.

An envelope of version one or two shows the signature of the transaction inside in its payload.
It verifies under the receiver of the envelope, over the text of the transaction inside as it
was made; version two shows neither that text nor all that is in it.
-/
import ShardClient.Proofs.Composer.Envelope
import ShardClient.Proofs.Transaction.Sealed
import ShardClient.Simulation.Network

namespace ShardClient

/-! ### The signature in a payload -/

/-- The signature of the transaction in a payload. -/
def Signature.ofPayload? (data : Bytes) : Option Signature :=
  match Payload.parts data with
  | [head, _, _, _, argument] =>
    if head = Utf8.encode "relayedTxV2" then
      (Hex.decode argument).toOption.bind Testimony.signature?
    else none
  | _ => (Testimony.ofPayload? data).map (·.signature)

theorem Signature.ofPayload?_relayedV1 (fees : FeeSchedule) (i : Signed) (relayer : Address) :
    ofPayload? (Draft.relayedV1 fees i relayer).data = some i.signature := by
  rw [Draft.relayedV1, Draft.envelope_data, ofPayload?, Payload.parts_whole,
    Testimony.ofPayload?_relayedV1]
  rfl

theorem Signature.ofPayload?_relayedV2 {fees : FeeSchedule} {i : Signed} {gas : Gas}
    {relayer : Address} {d : Draft} (h : Draft.relayedV2 fees i gas relayer = .ok d) :
    ofPayload? d.data = some i.signature := by
  obtain ⟨-, rfl⟩ := Draft.relayedV2_eq_ok.1 h
  rw [Draft.envelope_data, Signature.hex, ofPayload?, Payload.parts_listed]
  simp only [List.map_cons, List.map_nil, if_true, Hex.decode_encode, Except.toOption,
    Option.bind_some, Testimony.signature?_bytes]

/-! ### Keys and addresses -/

/-- Every account that is found signs with a key. -/
def Registry.Keyed (scheme : SignatureScheme) (r : Registry) : Prop :=
  ∀ a account, r.account a = .ok account → ∃ key, account.signer = Signer.ofKey scheme key

theorem Registry.account_mem {r : Registry} {a : Address} {account : Account}
    (h : r.account a = .ok account) : account ∈ r.sponsor :: r.users := by
  unfold Registry.account at h
  split at h
  · next found hf =>
    obtain rfl := Except.ok.inj h
    rw [r.accountsByAddress_eq] at hf
    exact (find?_accountTable hf).1
  · simp at h

theorem Registry.keyed_ofSigners (scheme : SignatureScheme) (sponsor : SecretKey)
    (users : List SecretKey) (contracts : List Address) (sharding : Sharding) :
    (Registry.ofSigners (Signer.ofKey scheme sponsor) (users.map (Signer.ofKey scheme)) contracts
      sharding).Keyed scheme := by
  intro a account h
  rcases List.mem_cons.1 (Registry.account_mem h) with rfl | huser
  · exact ⟨sponsor, rfl⟩
  · obtain ⟨signer, hsigner, rfl⟩ := List.mem_map.1 huser
    obtain ⟨key, -, rfl⟩ := List.mem_map.1 hsigner
    exact ⟨key, rfl⟩

/-! ### What is signed verifies -/

/-- The transaction verifies, and so do those that it has inside. -/
structure Signed.Genuine (scheme : SignatureScheme) (t : Signed) : Prop where
  verifies : t.verifies scheme = true
  inner : ∀ i ∈ t.inner, i.verifies scheme = true

section

variable {scheme : SignatureScheme} {c : Composer}

/-- A signature of the account that is found verifies for the sender. -/
theorem Composer.Signs.verifies (correct : scheme.Correct) (keyed : c.registry.Keyed scheme)
    {t : Numbered} {u : Signed} (h : c.Signs t u) : u.verifies scheme = true := by
  obtain ⟨account, haccount, hsign⟩ := h
  obtain ⟨key, hkey⟩ := keyed t.sender account haccount
  obtain ⟨howns, hunsigned, hsignature⟩ := Numbered.sign_eq_ok hsign
  have hsender : u.sender = scheme.publicKey key := by
    calc u.sender = t.sender := congrArg Numbered.sender hunsigned
      _ = account.signer.address := howns.symm
      _ = scheme.publicKey key := congrArg Signer.address hkey
  rw [Signed.verifies, hsender, hunsigned, hsignature, hkey]
  exact correct key t.signingBytes

variable {σ : Type} (host : Host (StateM σ))

namespace Composer

/-! ### Plain transactions -/

/-- A draft without transactions inside. -/
theorem returns_plain (correct : scheme.Correct) (keyed : c.registry.Keyed scheme) {d : Draft}
    (plain : d.Plain) : Returns (c.finish host d) (Signed.Genuine scheme) := by
  refine (c.returns_finish host d).mono ?_
  rintro t ⟨n, hsigns⟩
  refine ⟨hsigns.verifies correct keyed, ?_⟩
  rw [hsigns.becomes.inner, plain.inner]
  simp

/-- One deployment after another. -/
theorem returns_adderDeployments (correct : scheme.Correct) (keyed : c.registry.Keyed scheme) :
    Returns (c.adderDeployments host) fun ps => ∀ p ∈ ps, p.1.Genuine scheme := by
  have hsingle : ∀ code shard, Returns (c.adderDeployment host code shard)
      fun p => p.1.Genuine scheme := by
    intro code shard
    refine returns_after fun deployer => ?_
    refine (returns_plain host correct keyed (Draft.plain_deployment ..)).bind fun t ht => ?_
    exact returns_after fun _ => returns_pure ht
  have hfrom : ∀ code shard count, Returns (c.adderDeploymentsFrom host code shard count)
      fun ps => ∀ p ∈ ps, p.1.Genuine scheme := by
    intro code shard count
    induction count generalizing shard with
    | zero => exact returns_pure (by simp)
    | succ count ih =>
      refine (hsingle code _).bind fun first hfirst => ?_
      exact (ih (shard + 1)).bind fun rest hrest =>
        returns_pure (List.forall_mem_cons.2 ⟨hfirst, hrest⟩)
  exact returns_after fun code => hfrom code 0 _

end Composer

/-! ### Relayed transactions -/

theorem relayedV3_inner {fees : FeeSchedule} {relayer : Address} {inners : List Signed} {d : Draft}
    (h : Draft.relayedV3 fees relayer inners = .ok d) : d.inner = inners := by
  obtain ⟨-, -, rfl⟩ := Draft.relayedV3_eq_ok.1 h
  rfl

theorem relayedV2_envelope {fees : FeeSchedule} {i : Signed} {gas : Gas} {relayer : Address}
    {d : Draft} (h : Draft.relayedV2 fees i gas relayer = .ok d) :
    d.inner = [] ∧ d.receiver = i.sender := by
  obtain ⟨-, rfl⟩ := Draft.relayedV2_eq_ok.1 h
  exact ⟨rfl, rfl⟩

/-- The envelope shows the signature of the one transaction that was made, and it verifies under
the receiver of the envelope. -/
structure ShowsOne (scheme : SignatureScheme) (made : Contents) (t : Signed) : Prop where
  inner : t.inner = []
  signature : ∃ i signature, made.inners = [i] ∧
    Signature.ofPayload? t.body.data = some signature ∧
    scheme.verify t.body.receiver i.unsigned.signingBytes signature.bytes = true

theorem showsOne {made : Contents} {t i : Signed} {d : Draft} (hmade : made.inners = [i])
    (hverifies : i.verifies scheme = true) (becomes : d.Becomes t) (hinner : d.inner = [])
    (hreceiver : d.receiver = i.sender)
    (hsignature : Signature.ofPayload? d.data = some i.signature) : ShowsOne scheme made t := by
  refine ⟨becomes.inner.trans hinner, i, i.signature, hmade, ?_, ?_⟩
  · rw [becomes.body]
    exact hsignature
  · rw [show t.body.receiver = i.sender by rw [becomes.body, hreceiver]]
    exact hverifies

theorem showsOne_relayedV1 {made : Contents} {t i : Signed} {fees : FeeSchedule} {relayer : Address}
    (hmade : made.inners = [i]) (hverifies : i.verifies scheme = true)
    (becomes : (Draft.relayedV1 fees i relayer).Becomes t) : ShowsOne scheme made t :=
  showsOne hmade hverifies becomes rfl rfl (Signature.ofPayload?_relayedV1 fees i relayer)

namespace RelayedCall

/-- The envelope shows what was made: version three as the list of transactions inside, the others
in the payload. -/
def Shows (scheme : SignatureScheme) (made : Contents) (t : Signed) : RelayedCall → Prop
  | movesV3 .. => t.inner = made.inners
  | _ => ShowsOne scheme made t

variable {call : RelayedCall}

/-- What is made inside verifies. -/
theorem returns_genuine (correct : scheme.Correct) (keyed : c.registry.Keyed scheme)
    (call : RelayedCall) :
    Returns (call.inside c host) fun made => ∀ i ∈ made.inners, i.verifies scheme = true := by
  refine (returns_inside host (returns_anything (call.drafts c))).mono ?_
  rintro made ⟨ds, -, hsigned⟩ i hi
  obtain ⟨d, n, hsigns⟩ := exists_of_forall₂ hsigned.flip i hi
  exact hsigns.verifies correct keyed

/-- From one draft one transaction is made. -/
theorem returns_one
    (h : Returns (call.drafts c : Run (StateM σ) (List Draft)) fun ds => ∃ d, ds = [d]) :
    Returns (call.inside c host) fun made => ∃ i, made.inners = [i] := by
  refine (returns_inside host h).mono ?_
  rintro made ⟨_, ⟨d, rfl⟩, hsigned⟩
  obtain ⟨i, rest, -, hnil, hmade⟩ := List.forall₂_cons_left_iff.1 hsigned
  rw [List.forall₂_nil_left_iff.1 hnil] at hmade
  exact ⟨i, hmade⟩

/-- The envelope shows what was made inside it. -/
theorem shows (correct : scheme.Correct) (keyed : c.registry.Keyed scheme) {s between : Moment σ}
    {made : Contents} (hinside : Run.runFrom (call.inside c host) s = (.ok made, between))
    {d : Draft} (hd : call.envelope c.fees made.inners = .ok d) {t : Signed}
    (becomes : d.Becomes t) :
    call.Shows scheme made t := by
  have hall := returns_genuine host correct keyed call _ _ _ hinside
  have one : (Returns (call.drafts c : Run (StateM σ) (List Draft)) fun ds => ∃ d, ds = [d]) →
      ∃ i, made.inners = [i] ∧ i.verifies scheme = true := by
    intro h
    obtain ⟨i, hi⟩ := returns_one host h _ _ _ hinside
    exact ⟨i, hi, hall i (hi ▸ List.mem_singleton_self i)⟩
  cases call with
  | moveV1 relayer sender receiver amount | refusedV1 relayer sender receiver amount =>
    obtain ⟨i, hmade, hverifies⟩ := one (returns_pure ⟨_, rfl⟩)
    rw [hmade] at hd
    obtain rfl := Except.ok.inj hd
    exact showsOne_relayedV1 hmade hverifies becomes
  | tokensV1 relayer sender receiver amount =>
    obtain ⟨i, hmade, hverifies⟩ := one (returns_after fun _ => returns_pure ⟨_, rfl⟩)
    rw [hmade] at hd
    obtain rfl := Except.ok.inj hd
    exact showsOne_relayedV1 hmade hverifies becomes
  | moveV2 relayer sender receiver amount =>
    obtain ⟨i, hmade, hverifies⟩ := one (returns_pure ⟨_, rfl⟩)
    rw [hmade] at hd
    obtain ⟨hinner, hreceiver⟩ := relayedV2_envelope hd
    exact showsOne hmade hverifies becomes hinner hreceiver (Signature.ofPayload?_relayedV2 hd)
  | movesV3 relayer senders receivers amount =>
    exact becomes.inner.trans (relayedV3_inner hd)

/-- The transactions inside an envelope are among those that were made. -/
theorem Shows.inner_subset {made : Contents} {t : Signed} (h : call.Shows scheme made t) :
    t.inner ⊆ made.inners := by
  have one : ShowsOne scheme made t → t.inner ⊆ made.inners := by
    intro h
    rw [h.inner]
    exact List.nil_subset _
  cases call with
  | movesV3 relayer senders receivers amount =>
    have hlist : t.inner = made.inners := h
    rw [hlist]
    exact List.Subset.refl _
  | moveV1 _ _ _ _ | tokensV1 _ _ _ _ | refusedV1 _ _ _ _ | moveV2 _ _ _ _ => exact one h

/-- A call makes what is inside, which verifies, and an envelope that verifies and shows it. -/
theorem genuine (correct : scheme.Correct) (keyed : c.registry.Keyed scheme)
    {s after : Moment σ} {t : Signed}
    (h : Run.runFrom (call.perform c host) s = (.ok t, after)) :
    t.Genuine scheme ∧ ∃ made between, Run.runFrom (call.inside c host) s = (.ok made, between) ∧
      Run.runFrom (call.enclose c made) between = (.ok t, after) ∧ call.Shows scheme made t := by
  obtain ⟨made, between, hinside, henclose⟩ := perform_eq_ok h
  obtain ⟨d, hd, hsigns⟩ := returns_enclose made _ _ _ henclose
  have hshows := shows host correct keyed hinside hd hsigns.becomes
  have hall := returns_genuine host correct keyed call _ _ _ hinside
  exact ⟨⟨hsigns.verifies correct keyed, fun i hi => hall i (hshows.inner_subset hi)⟩,
    made, between, hinside, henclose, hshows⟩

end RelayedCall

/-! ### Calls -/

/-- A single transaction as a list. -/
theorem returns_singleton {x : Run (StateM σ) Signed} (h : Returns x (Signed.Genuine scheme)) :
    Returns (do return [← x]) fun ts => ∀ t ∈ ts, t.Genuine scheme :=
  h.bind fun t ht => returns_pure (by simpa using ht)

/-- Whatever a call returns verifies. -/
theorem Call.returns_genuine (correct : scheme.Correct) (keyed : c.registry.Keyed scheme)
    (call : Call) : Returns (call.perform c host) fun ts => ∀ t ∈ ts, t.Genuine scheme := by
  have plain : ∀ {d : Draft}, d.Plain → Returns (c.finish host d) (Signed.Genuine scheme) :=
    Composer.returns_plain host correct keyed
  cases call with
  | nativeAirdrops =>
    exact returns_all fun user _ => plain (Draft.plain_nativeTransfer ..)
  | issuance name => exact returns_singleton (plain (Draft.plain_issuance ..))
  | tokenAirdrops =>
    exact returns_after fun token => returns_all fun user _ => plain (Draft.plain_tokenTransfer ..)
  | adderDeployments =>
    refine (Composer.returns_adderDeployments host correct keyed).bind fun ps hps => returns_pure ?_
    simpa using hps
  | move sender receiver =>
    exact returns_singleton (plain ((Draft.plain_nativeTransfer ..).withGas _))
  | overdraw sender receiver =>
    exact returns_singleton (plain ((Draft.plain_nativeTransfer ..).withGas _))
  | moveBoth sender receiver =>
    exact returns_singleton (returns_after fun token => plain (Draft.plain_transfer ..))
  | relayed call =>
    exact returns_singleton fun s after t h => (RelayedCall.genuine host correct keyed h).1
  | deploy sender amount =>
    exact returns_singleton (returns_after fun code => plain (Draft.plain_deployment ..))
  | deployRefused sender amount =>
    exact returns_singleton (returns_after fun code => plain (Draft.plain_deployment ..))
  | callRefused sender contract amount =>
    exact returns_singleton
      (plain (Draft.plain_call _ _ _ (b := 0x6d) _ _ _ (by decide) (by decide)))
  | claimRewards sender contract =>
    exact returns_singleton
      (plain (Draft.plain_call _ _ _ (b := 0x43) _ _ _ (by decide) (by decide)))

end

/-- **Signatures verify.**  If the registry is made from keys, then whatever a builder returns
verifies, for any accounts that it is called with, and so do the transactions inside; and an
envelope shows the signature of what was made inside it, which verifies under the receiver of the
envelope. -/
theorem signatures_verify {σ : Type} {scheme : SignatureScheme} (correct : scheme.Correct)
    (sponsor : SecretKey) (users : List SecretKey) (contracts : List Address) (sharding : Sharding)
    {c : Composer}
    (registry : c.registry = Registry.ofSigners (Signer.ofKey scheme sponsor)
      (users.map (Signer.ofKey scheme)) contracts sharding)
    (host : Host (StateM σ)) (call : Call) {s after : Moment σ} {ts : List Signed}
    (h : Run.runFrom (call.perform c host) s = (.ok ts, after)) :
    (∀ t ∈ ts, t.verifies scheme = true ∧ ∀ i ∈ t.inner, i.verifies scheme = true) ∧
      ∀ relayed, call = .relayed relayed → ∃ t made between, ts = [t] ∧
        Run.runFrom (relayed.inside c host) s = (.ok made, between) ∧
        Run.runFrom (relayed.enclose c made) between = (.ok t, after) ∧
        relayed.Shows scheme made t := by
  have keyed : c.registry.Keyed scheme :=
    registry ▸ Registry.keyed_ofSigners scheme sponsor users contracts sharding
  refine ⟨fun t ht => ?_, ?_⟩
  · obtain ⟨hverifies, hinner⟩ := call.returns_genuine host correct keyed _ _ _ h t ht
    exact ⟨hverifies, hinner⟩
  · rintro relayed rfl
    obtain ⟨t, final, hperform, hlast⟩ := Run.runFrom_bind_eq_ok h
    rw [Run.runFrom_pure] at hlast
    cases hlast
    obtain ⟨-, made, between, hinside, henclose, hshows⟩ :=
      RelayedCall.genuine host correct keyed hperform
    exact ⟨t, made, between, rfl, hinside, henclose, hshows⟩

/-- A scheme that hides nothing: the public key is the key, and a signature is the key with the
hash of the message. -/
def SignatureScheme.transparent : SignatureScheme where
  publicKey key := ⟨key.toFixedBytes⟩
  sign key message := ⟨⟨key.bytes ++ (sha256 message).bytes, by
    rw [List.length_append, key.length_eq, (sha256 message).length_eq]⟩⟩
  verify address message signature := signature == address.bytes ++ (sha256 message).bytes

theorem SignatureScheme.transparent_correct : SignatureScheme.transparent.Correct :=
  fun _ _ => beq_self_eq_true _

/-- A key comes twice among the users, and the account that is passed for its address has a signer
that cannot sign for it. -/
theorem signatures_verify_foreign_signer :
    let scheme := SignatureScheme.transparent
    let key (b : UInt8) : SecretKey := ⟨⟨List.replicate 32 b, List.length_replicate⟩⟩
    let c : Composer :=
      { Composer.small with
        registry := Registry.ofSigners (Signer.ofKey scheme (key 1))
          ([key 2, key 3, key 2].map (Signer.ofKey scheme)) [] (Sharding.ofCount 3) }
    let sender : Account := ⟨scheme.publicKey (key 2), Signer.blank 9⟩
    let relayed := RelayedCall.moveV2 (Account.ofSigner (Signer.ofKey scheme (key 1))) sender
      Address.tokenSystem 5
    scheme.Correct ∧ ∃ ts after,
      Run.runFrom ((Call.relayed relayed).perform c Simulation.host) ⟨{}, {}⟩ = (.ok ts, after) ∧
      (∀ t ∈ ts, t.verifies scheme = true ∧ ∀ i ∈ t.inner, i.verifies scheme = true) ∧
      ∀ call, Call.relayed relayed = .relayed call → ∃ t made between, ts = [t] ∧
        Run.runFrom (call.inside c Simulation.host) ⟨{}, {}⟩ = (.ok made, between) ∧
        Run.runFrom (call.enclose c made) between = (.ok t, after) ∧
        call.Shows scheme made t := by
  intro scheme key c sender relayed
  obtain ⟨ts, after, hrun⟩ : ∃ ts after,
      Run.runFrom ((Call.relayed relayed).perform c Simulation.host) ⟨{}, {}⟩ = (.ok ts, after) :=
    Run.exists_of_isOk (by decide +kernel)
  exact ⟨SignatureScheme.transparent_correct, ts, after, hrun,
    signatures_verify SignatureScheme.transparent_correct (key 1) [key 2, key 3, key 2] []
      (Sharding.ofCount 3) rfl Simulation.host (.relayed relayed) hrun⟩

end ShardClient
