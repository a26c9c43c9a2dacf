/-
What the builders hand out.

Each builder keeps books, and what it hands out when it is finished is what the transactions
that it returns use, in order.  All builders but one stop by themselves only before anything is
handed out: they look up what they need first, and an account that has been looked up can sign
for its address, so signing does not fail behind a lookup.  The exception is the deployment in
every shard, which looks up one account after another and is left to a module of its own.
-/
import ShardClient.Proofs.Composer.Call
import ShardClient.Proofs.Run.Books

namespace ShardClient

/-- The transaction says what the draft says. -/
structure Draft.Becomes (d : Draft) (t : Signed) : Prop where
  body : t.body = d.toBody
  inner : t.inner = d.inner

theorem Draft.Becomes.sender {d : Draft} {t : Signed} (h : d.Becomes t) : t.sender = d.sender := by
  rw [Signed.sender, h.body]

/-- A transaction from a plain draft uses its own nonce only. -/
theorem Draft.Becomes.reservations {d : Draft} {t : Signed} (h : d.Becomes t) (plain : d.Plain) :
    t.reservations = [(t.sender, t.nonce)] := by
  rw [Signed.reservations, Signed.carried_eq_nil h.body h.inner plain]
  rfl

namespace Composer

variable {σ : Type} (c : Composer) (host : Host (StateM σ))

/-- The account can sign. -/
def Managed (a : Address) : Prop := ∃ account, c.registry.account a = .ok account

/-! ### Lookups -/

theorem books_managed (a : Address) :
    Books (c.managed a : Run (StateM (Recorded σ)) Account)
      (fun rs account => rs = [] ∧ c.registry.account a = .ok account) Refuses :=
  books_ofExcept fun _ => trivial

theorem books_code (file : String) :
    Books (c.code file : Run (StateM (Recorded σ)) Bytes)
      (fun rs code => rs = [] ∧ c.files.readCode (FileStore.join c.contractsDir file) = .ok code)
      Refuses :=
  books_ofExcept fun _ => trivial

/-- The token for token transfers is a fungible one. -/
theorem books_token :
    Books (c.token : Run (StateM (Recorded σ)) Token) (fun rs token => rs = [] ∧ token.nonce = 0)
      Refuses := by
  unfold token
  cases c.currency with
  | some identifier => exact books_pure ⟨rfl, rfl⟩
  | none => exact books_throw ⟨rfl, trivial⟩

/-! ### Numbering and signing -/

variable {c} {d : Draft}

/-- Signing for a managed account does not fail. -/
theorem sign_managed {t : Numbered} (h : c.Managed t.sender) :
    ∃ u : Signed, u.nonce = t.nonce ∧ t.draft.Becomes u ∧
      (c.sign t : Run (StateM σ) Signed) = pure u := by
  obtain ⟨account, haccount⟩ := h
  have howns : account.signer.address = t.sender := (Registry.account_owns haccount).2
  refine ⟨⟨t.nonce, t.draft.toBody, t.draft.inner, account.signer.sign t.signingBytes⟩, rfl,
    ⟨rfl, rfl⟩, ?_⟩
  have hsign : (c.sign t : Run (StateM σ) Signed)
      = Run.ofExcept .signer (t.sign account.signer) := by
    unfold sign managed
    rw [haccount]
    rfl
  rw [hsign, Numbered.sign, if_pos howns]
  rfl

theorem books_sign {t : Numbered} (h : c.Managed t.sender) :
    Books (c.sign t : Run (StateM (Recorded σ)) Signed)
      (fun rs u => rs = [] ∧ u.nonce = t.nonce ∧ t.draft.Becomes u) Never := by
  obtain ⟨u, hnonce, hbecomes, hsign⟩ := sign_managed h
  rw [hsign]
  exact books_pure ⟨rfl, hnonce, hbecomes⟩

/-- Finishing a draft of a managed account is reserving a nonce of it: whatever that is, there is a
transaction with it. -/
theorem finish_managed (host : Host (StateM σ)) (h : c.Managed d.sender) :
    ∃ numbered : UInt64 → Signed, (∀ n, (numbered n).nonce = n ∧ d.Becomes (numbered n)) ∧
      c.finish host d = (do return numbered (← reserveNonce host d.sender)) := by
  have hsigned : ∀ n, ∃ u : Signed, u.nonce = n ∧ d.Becomes u ∧
      (c.sign (d.number n) : Run (StateM σ) Signed) = pure u :=
    fun n => sign_managed (t := d.number n) h
  choose numbered hnonce hbecomes hsign using hsigned
  refine ⟨numbered, fun n => ⟨hnonce n, hbecomes n⟩, ?_⟩
  obtain ⟨account, haccount⟩ := h
  have hfinish : c.finish host d
      = (do c.sign (d.number (← reserveNonce host account.address))) := by
    unfold finish managed
    rw [haccount]
    rfl
  rw [hfinish, (Registry.account_owns haccount).1]
  simp only [hsign]

/-- Finishing a draft of a managed account. -/
theorem books_finish_managed (host : Host (StateM σ)) (h : c.Managed d.sender) :
    Books (c.finish host.recorded d) (fun rs t => rs = [(t.sender, t.nonce)] ∧ d.Becomes t)
      Never := by
  obtain ⟨numbered, hnumbered, hfinish⟩ := finish_managed host.recorded h
  have hreserve : Books (reserveNonce host.recorded d.sender) (fun rs n => rs = [(d.sender, n)])
      Never := books_reserveNonce host d.sender fun _ => rfl
  rw [hfinish]
  refine hreserve.andThen ?_
  rintro _ n rfl
  obtain ⟨hnonce, hbecomes⟩ := hnumbered n
  refine books_pure ⟨?_, hbecomes⟩
  rw [List.append_nil, hbecomes.sender, hnonce]

/-- Finishing a draft. -/
theorem books_finish (host : Host (StateM σ)) (d : Draft) :
    Books (c.finish host.recorded d) (fun rs t => rs = [(t.sender, t.nonce)] ∧ d.Becomes t)
      Refuses := by
  by_cases hmanaged : c.Managed d.sender
  · exact (books_finish_managed host hmanaged).refusing
  · refine (books_managed c d.sender).after fun account h => ?_
    exact absurd ⟨account, h⟩ hmanaged

/-- Finishing a plain draft. -/
theorem books_plain (host : Host (StateM σ)) {d : Draft} (plain : d.Plain) :
    Books (c.finish host.recorded d) (fun rs t => rs = t.reservations) Refuses := by
  refine (books_finish host d).mono ?_ fun _ _ h => h
  rintro _ t ⟨rfl, h⟩
  exact (h.reservations plain).symm

/-- Finishing plain drafts of one account: if the first is not refused then none is. -/
theorem books_mapM_finish {β : Type} (host : Host (StateM σ)) (items : List β) {draft : β → Draft}
    {sender : Address} (hsender : ∀ b, (draft b).sender = sender) (plain : ∀ b, (draft b).Plain) :
    Books (items.mapM fun b => c.finish host.recorded (draft b))
      (fun rs ts => rs = ts.flatMap Signed.reservations) Refuses := by
  -- the lookup is the same one each time, so the first decides
  by_cases hmanaged : c.Managed sender
  · have heach : ∀ b ∈ items, Books (c.finish host.recorded (draft b))
        (fun rs t => rs = t.reservations ∧ True) Never := by
      intro b _
      refine (books_finish_managed host ((hsender b).symm ▸ hmanaged)).mono ?_ fun _ _ h => h
      rintro _ t ⟨rfl, h⟩
      exact ⟨(h.reservations (plain b)).symm, trivial⟩
    exact (books_mapM heach).refusing.mono (fun _ _ h => h.1) fun _ _ h => h
  · cases items with
    | nil =>
      rw [List.mapM_nil]
      exact books_pure rfl
    | cons b items =>
      rw [List.mapM_cons]
      refine Books.after (P := fun _ => False) ?_ fun _ h => h.elim
      refine (books_managed c (draft b).sender).after fun account h => ?_
      rw [hsender] at h
      exact absurd ⟨account, h⟩ hmanaged

/-! ### Plain transactions -/

theorem books_nativeAirdrops :
    Books (c.nativeAirdrops host.recorded) (fun rs ts => rs = ts.flatMap Signed.reservations)
      Refuses :=
  books_mapM_finish host c.registry.users (fun _ => rfl) fun _ => Draft.plain_nativeTransfer ..

theorem books_issuance (name : String) :
    Books (c.issuance host.recorded name) (fun rs t => rs = t.reservations) Refuses :=
  books_plain host (Draft.plain_issuance ..)

/-- A token transfer of a single fungible token goes to its receiver. -/
theorem tokenTransfer_fungible {token : Token} (h : token.nonce = 0) (fees : FeeSchedule)
    (sender receiver : Address) (amount : Amount) :
    (Draft.tokenTransfer fees sender receiver [⟨token, amount⟩]).sender = sender ∧
      (Draft.tokenTransfer fees sender receiver [⟨token, amount⟩]).receiver = receiver := by
  unfold Draft.tokenTransfer
  simp only [if_pos h]
  exact ⟨rfl, rfl⟩

theorem books_tokenAirdrops :
    Books (c.tokenAirdrops host.recorded) (fun rs ts => rs = ts.flatMap Signed.reservations)
      Refuses := by
  refine (books_token c).after fun token h => ?_
  exact books_mapM_finish host c.registry.users (fun _ => (tokenTransfer_fungible h ..).1)
    fun _ => Draft.plain_tokenTransfer ..

theorem books_overpaid (sender : Account) (receiver : Address) (amount : Amount) :
    Books (c.overpaid host.recorded sender receiver amount) (fun rs t => rs = t.reservations)
      Refuses :=
  books_plain host ((Draft.plain_nativeTransfer c.fees sender.address receiver amount).withGas _)

theorem books_moveBoth (sender : Account) (receiver : Address) :
    Books (c.moveBoth host.recorded sender receiver) (fun rs t => rs = t.reservations) Refuses :=
  (books_token c).after fun _ _ => books_plain host (Draft.plain_transfer ..)

theorem books_deploy (sender : Account) (amount : Amount) :
    Books (c.deploy host.recorded sender amount) (fun rs t => rs = t.reservations) Refuses :=
  (books_code c dummyFile).after fun _ _ => books_plain host (Draft.plain_deployment ..)

theorem books_deployRefused (sender : Account) (amount : Amount) :
    Books (c.deployRefused host.recorded sender amount) (fun rs t => rs = t.reservations) Refuses :=
  (books_code c adderFile).after fun _ _ => books_plain host (Draft.plain_deployment ..)

theorem books_callRefused (sender : Account) (contract : Address) (amount : Amount) :
    Books (c.callRefused host.recorded sender contract amount) (fun rs t => rs = t.reservations)
      Refuses :=
  books_plain host (Draft.plain_call _ _ _ (b := 0x6d) _ _ _ (by decide) (by decide))

theorem books_claimRewards (sender : Account) (contract : Address) :
    Books (c.claimRewards host.recorded sender contract) (fun rs t => rs = t.reservations)
      Refuses :=
  books_plain host (Draft.plain_call _ _ _ (b := 0x43) _ _ _ (by decide) (by decide))

end Composer

end ShardClient
