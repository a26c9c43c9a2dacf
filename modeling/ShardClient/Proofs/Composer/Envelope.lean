/-
What is inside an envelope, and the envelope around it.

The builders of relayed transactions share one shape: drafts are made, a nonce is reserved for the
relayer, the drafts are finished, and an envelope is put around what came of them.  Here each
call is taken apart in front of the envelope, so that the transactions inside can be spoken of
as they were made, and not only as they can be read in the envelope.

Of what a call returns it is said here which drafts were signed on the way, and by whom.
-/
import ShardClient.Proofs.Composer.Relays
import ShardClient.Proofs.Run.Returns

namespace ShardClient

/-- What is made before an envelope: the nonce kept for it, and the transactions inside. -/
structure Contents where
  nonce : UInt64
  inners : List Signed

namespace RelayedCall

variable {m : Type → Type} [Monad m]

/-- The drafts of the transactions inside. -/
def drafts (c : Composer) : RelayedCall → Run m (List Draft)
  | moveV1 _ sender receiver amount =>
    pure [Draft.nativeTransfer c.fees sender.address receiver amount]
  | tokensV1 _ sender receiver amount => do
    let token ← c.token
    pure [Draft.tokenTransfer c.fees sender.address receiver [⟨token, amount⟩]]
  | refusedV1 _ sender contract amount =>
    pure [Draft.call c.fees sender.address contract "add" Composer.contractGas
      Composer.refusedArguments amount]
  | moveV2 _ sender receiver amount =>
    pure [{ Draft.nativeTransfer c.fees sender.address receiver amount with gasLimit := 0 }]
  | movesV3 relayer senders receivers amount => do
    if senders.length ≠ receivers.length then
      throw (.pairing (.unequal senders.length receivers.length))
    if senders.isEmpty then throw (.pairing .empty)
    pure ((senders.zip receivers).map (c.taggedMove relayer amount))

/-- The draft of the envelope around the transactions inside. -/
def envelope (fees : FeeSchedule) (call : RelayedCall) (inners : List Signed) :
    Except RelayError Draft :=
  match call, inners with
  | movesV3 relayer .., inners => Draft.relayedV3 fees relayer.address inners
  | _, [] => .error .noInner
  | moveV2 relayer .., inner :: _ =>
    Draft.relayedV2 fees inner Composer.relayedV2InnerGas relayer.address
  | moveV1 relayer .., inner :: _ | tokensV1 relayer .., inner :: _
  | refusedV1 relayer .., inner :: _ => .ok (Draft.relayedV1 fees inner relayer.address)

/-- Makes the call up to the envelope. -/
def inside (c : Composer) (host : Host m) (call : RelayedCall) : Run m Contents := do
  let drafts ← call.drafts c
  let nonce ← c.reserveRelayer host call.payer call.signers
  let inners ← drafts.mapM (c.finish host)
  pure ⟨nonce, inners⟩

/-- Puts the envelope around what has been made. -/
def enclose (c : Composer) (call : RelayedCall) (made : Contents) : Run m Signed := do
  let envelope ← Run.ofExcept .relay (call.envelope c.fees made.inners)
  c.sign (envelope.number made.nonce)

/-- A call makes what is inside, and then the envelope. -/
theorem perform_eq [LawfulMonad m] (c : Composer) (host : Host m) (call : RelayedCall) :
    call.perform c host = call.inside c host >>= call.enclose c := by
  cases call with
  | moveV1 relayer sender receiver amount =>
    simp only [perform, Composer.relayedMoveV1, Composer.relayV1, inside, drafts, enclose, envelope,
      payer, signers, Run.ofExcept, List.mapM_cons, List.mapM_nil, bind_assoc, pure_bind]
  | tokensV1 relayer sender receiver amount =>
    simp only [perform, Composer.relayedTokensV1, Composer.relayV1, inside, drafts, enclose,
      envelope, payer, signers, Run.ofExcept, List.mapM_cons, List.mapM_nil, bind_assoc, pure_bind]
  | refusedV1 relayer sender contract amount =>
    simp only [perform, Composer.relayedCallRefusedV1, Composer.relayV1, inside, drafts, enclose,
      envelope, payer, signers, Run.ofExcept, List.mapM_cons, List.mapM_nil, bind_assoc, pure_bind]
  | moveV2 relayer sender receiver amount =>
    simp only [perform, Composer.relayedMoveV2, inside, drafts, enclose, envelope, payer, signers,
      List.mapM_cons, List.mapM_nil, bind_assoc, pure_bind]
  | movesV3 relayer senders receivers amount =>
    have hmap : ∀ pairs : List (Account × Address),
        (pairs.map (c.taggedMove relayer amount)).mapM (c.finish host)
          = pairs.mapM fun p => c.finish host (c.taggedMove relayer amount p) :=
      fun pairs => List.mapM_map
    simp only [perform, Composer.relayedMovesV3, inside, drafts, enclose, envelope, payer, signers,
      bind_assoc, pure_bind]
    by_cases hlength : senders.length = receivers.length
    swap
    · simp [hlength]
    by_cases hempty : senders.isEmpty = true
    · simp [hlength, hempty]
    · simp only [hlength, hempty, ne_eq, not_true_eq_false, if_false, Bool.false_eq_true, pure_bind,
        hmap]
      rfl

end RelayedCall

/-! ### What is returned -/

/-- The transaction is the numbered one, signed by the managed account that sends it. -/
def Composer.Signs (c : Composer) (t : Numbered) (u : Signed) : Prop :=
  ∃ account, c.registry.account t.sender = .ok account ∧ t.sign account.signer = .ok u

theorem Numbered.sign_eq_ok {t : Numbered} {signer : Signer} {u : Signed}
    (h : t.sign signer = .ok u) :
    signer.address = t.sender ∧ u.unsigned = t ∧ u.signature = signer.sign t.signingBytes := by
  unfold Numbered.sign at h
  split at h
  · next howns =>
    obtain rfl := Except.ok.inj h
    exact ⟨howns, rfl, rfl⟩
  · simp at h

theorem Composer.Signs.unsigned {c : Composer} {t : Numbered} {u : Signed} (h : c.Signs t u) :
    u.unsigned = t := by
  obtain ⟨account, -, hsign⟩ := h
  exact (Numbered.sign_eq_ok hsign).2.1

theorem Composer.Signs.becomes {c : Composer} {d : Draft} {n : UInt64} {u : Signed}
    (h : c.Signs (d.number n) u) : d.Becomes u :=
  ⟨congrArg (·.draft.toBody) h.unsigned, congrArg (·.draft.inner) h.unsigned⟩

section

variable {σ : Type} {c : Composer}

theorem Composer.returns_sign (t : Numbered) :
    Returns (c.sign t : Run (StateM σ) Signed) (c.Signs t) :=
  returns_ofExcept.bind fun account haccount =>
    returns_ofExcept.mono fun _ hsign => ⟨account, haccount, hsign⟩

/-- Finishing a draft numbers it and has it signed. -/
theorem Composer.returns_finish (host : Host (StateM σ)) (d : Draft) :
    Returns (c.finish host d) fun t => ∃ n, c.Signs (d.number n) t :=
  returns_after fun _ => returns_after fun n =>
    (Composer.returns_sign (d.number n)).mono fun _ h => ⟨n, h⟩

namespace RelayedCall

variable {call : RelayedCall}

theorem returns_inside (host : Host (StateM σ)) {P : List Draft → Prop}
    (h : Returns (call.drafts c : Run (StateM σ) (List Draft)) P) :
    Returns (call.inside c host) fun made =>
      ∃ ds, P ds ∧ List.Forall₂ (fun d i => ∃ n, c.Signs (d.number n) i) ds made.inners := by
  refine h.bind fun ds hds => returns_after fun nonce => ?_
  have hfinish : Returns (ds.mapM (c.finish host))
      (List.Forall₂ (fun d i => ∃ n, c.Signs (d.number n) i) ds) :=
    returns_mapM fun d _ => c.returns_finish host d
  exact hfinish.bind fun inners hinners => returns_pure ⟨ds, hds, hinners⟩

theorem returns_enclose (made : Contents) :
    Returns (call.enclose c made : Run (StateM σ) Signed) fun t =>
      ∃ d, call.envelope c.fees made.inners = .ok d ∧ c.Signs (d.number made.nonce) t :=
  returns_ofExcept.bind fun d hd =>
    (Composer.returns_sign (d.number made.nonce)).mono fun _ h => ⟨d, hd, h⟩

/-- A call that has returned an envelope has first made what is inside. -/
theorem perform_eq_ok {host : Host (StateM σ)} {s after : Moment σ} {t : Signed}
    (h : Run.runFrom (call.perform c host) s = (.ok t, after)) :
    ∃ made between, Run.runFrom (call.inside c host) s = (.ok made, between) ∧
      Run.runFrom (call.enclose c made) between = (.ok t, after) := by
  rw [call.perform_eq c host] at h
  exact Run.runFrom_bind_eq_ok h

end RelayedCall

end

end ShardClient
