/-
Accounts that are used up.

The greatest nonce is never handed out.  Once it comes next for an account, a reservation for this
account fails and leaves it next, and reservations for others do not touch it; so that is how it
stays.  A call that is finished has used a nonce for each of the accounts that it is made for.
Hence no call that needs the account is finished from then on, by whichever way it comes to the
reservation, and no transaction that is returned uses a nonce of the account, be it as an envelope
or inside one.
-/
import ShardClient.Proofs.Composer.Envelope
import ShardClient.Proofs.Composer.Making
import ShardClient.Proofs.Composer.Relaying
import ShardClient.Proofs.Composer.Sequence
import ShardClient.Proofs.Composer.Supplying
import ShardClient.Proofs.Run.Reserving

namespace ShardClient

variable {σ α : Type} {a b : Address} {s s₁ : Moment (Recorded σ)}

/-! ### Reservations -/

/-- An account stays used up, whichever account a nonce is reserved for. -/
theorem Reserved.usedUp {r : Except RunError UInt64} (step : Reserved b s r s₁)
    (last : s.table.find? a = some lastNonce) : s₁.table.find? a = some lastNonce := by
  by_cases h : a = b
  · subst h
    rw [(step.spares.last last).2, last]
  · rw [step.find?_other h, last]

/-- An account that is used up stays so, and is handed nothing. -/
theorem Steps.usedUp {rs : List Reservation} (steps : Steps s rs s₁)
    (last : s.table.find? a = some lastNonce) :
    s₁.table.find? a = some lastNonce ∧ a ∉ rs.map (·.1) := by
  induction steps with
  | refl => exact ⟨last, List.not_mem_nil⟩
  | @reserve s s₁ s₂ b n rs first _ ih =>
    obtain ⟨hlast, hrest⟩ := ih (first.usedUp last)
    refine ⟨hlast, ?_⟩
    rw [List.map_cons, List.mem_cons, not_or]
    refine ⟨?_, hrest⟩
    rintro rfl
    exact absurd (first.spares.last last).1 nofun
  | outside world _ ih => exact ih last

/-- A run that keeps books leaves the account used up, and hands it nothing. -/
theorem Books.usedUp {x : Run (StateM (Recorded σ)) α} {done : List Reservation → α → Prop}
    {stop : List Reservation → RunError → Prop} (h : Books x done stop) {r : Except RunError α}
    (run : Run.runFrom x s = (r, s₁)) (last : s.table.find? a = some lastNonce) :
    s₁.table.find? a = some lastNonce ∧
      ∀ v, r = .ok v → ∃ rs, done rs v ∧ a ∉ rs.map (·.1) := by
  cases r with
  | ok v =>
    obtain ⟨rs, steps, hdone⟩ := h.of_ok run
    obtain ⟨hlast, hfree⟩ := steps.usedUp last
    refine ⟨hlast, ?_⟩
    rintro _ ⟨⟩
    exact ⟨rs, hdone, hfree⟩
  | error e =>
    refine ⟨?_, nofun⟩
    rcases h.of_error run with ⟨rs, steps, -⟩ | ⟨rs, s₀, b, steps, blocked⟩
    · exact (steps.usedUp last).1
    · exact blocked.usedUp (steps.usedUp last).1

/-! ### The accounts of a finished call -/

/-- The accounts whose nonces transactions use, in order. -/
def accountsOf (ts : List Signed) : List Address := (ts.flatMap Signed.reservations).map (·.1)

theorem accountsOf_singleton (t : Signed) : accountsOf [t] = t.reservations.map (·.1) := by
  rw [accountsOf, List.flatMap_singleton]

/-- Transactions that have been made for items one by one use what they use for each. -/
theorem accountsOf_of_forall₂ {β : Type} {items : List β} {ts : List Signed}
    {needs : β → List Address}
    (h : List.Forall₂ (fun b t => t.reservations.map (·.1) = needs b) items ts) :
    accountsOf ts = items.flatMap needs := by
  induction h with
  | nil => rfl
  | cons hfirst _ ih =>
    rw [accountsOf, List.flatMap_cons, List.map_append, hfirst, List.flatMap_cons, ← ih]
    rfl

/-- What a run returns that keeps books. -/
theorem Books.returns {x : Run (StateM (Recorded σ)) α} {done : List Reservation → α → Prop}
    {stop : List Reservation → RunError → Prop} (h : Books x done stop) :
    Returns x fun v => ∃ rs, done rs v := by
  intro s s₁ v run
  obtain ⟨rs, -, hdone⟩ := h.of_ok run
  exact ⟨rs, hdone⟩

/-- A single transaction as a list. -/
theorem Returns.accounts_single {x : Run (StateM σ) Signed} {accounts : List Address}
    (h : Returns x fun t => t.reservations.map (·.1) = accounts) :
    Returns (do return [← x]) fun ts => accountsOf ts = accounts :=
  h.bind fun t ht => returns_pure ((accountsOf_singleton t).trans ht)

namespace Composer

variable {c : Composer}

/-- A transaction from a plain draft uses a nonce of its sender. -/
theorem returns_sender (host : Host (StateM σ)) {d : Draft} {sender : Address} (plain : d.Plain)
    (hsender : d.sender = sender) :
    Returns (c.finish host d) fun t => t.reservations.map (·.1) = [sender] := by
  refine (c.returns_finish host d).mono ?_
  rintro t ⟨n, hsigns⟩
  rw [hsigns.becomes.reservations plain, ← hsender, ← hsigns.becomes.sender]
  rfl

/-- Transactions from the sponsor, one for each user. -/
theorem returns_sponsored (host : Host (StateM σ)) {draft : Account → Draft}
    (plain : ∀ user, (draft user).Plain)
    (hsender : ∀ user, (draft user).sender = c.registry.sponsor.address) :
    Returns (c.registry.users.mapM fun user => c.finish host (draft user)) fun ts =>
      accountsOf ts = c.registry.users.map fun _ => c.registry.sponsor.address := by
  have heach : Returns (c.registry.users.mapM fun user => c.finish host (draft user))
      (List.Forall₂ (fun _ t => t.reservations.map (·.1) = [c.registry.sponsor.address])
        c.registry.users) :=
    returns_mapM fun user _ => returns_sender host (plain user) (hsender user)
  refine heach.mono fun ts hts => ?_
  rw [accountsOf_of_forall₂ hts, List.map_eq_flatMap]

theorem returns_deployers (host : Host (StateM σ)) :
    Returns (c.adderDeployments host.recorded) fun ps =>
      accountsOf (ps.map (·.1)) = c.deployers := by
  refine (books_adderDeployments host).returns.mono ?_
  rintro ps ⟨_, -, code, -, hdeploys⟩
  rw [accountsOf, reservations_of_deploys hdeploys, deployers_eq, firstUsers_of_deploys hdeploys]

end Composer

/-- **A finished call has used a nonce for each of its accounts**, and these are all, in order. -/
theorem Call.returns_accounts (c : Composer) (host : Host (StateM σ)) (call : Call) :
    Returns (call.perform c host.recorded) fun ts => accountsOf ts = call.accounts c := by
  have plain : ∀ {d : Draft} {sender : Address}, d.Plain → d.sender = sender →
      Returns (c.finish host.recorded d) fun t => t.reservations.map (·.1) = [sender] :=
    Composer.returns_sender host.recorded
  have deployment : ∀ (sender : Account) (amount : Amount) (arguments : List Amount) (code : Bytes),
      Returns (c.finish host.recorded (Draft.deployment c.fees sender.address code
        Composer.contractGas arguments amount {}))
        fun t => t.reservations.map (·.1) = [sender.address] :=
    fun _ _ _ _ => plain (Draft.plain_deployment ..) rfl
  cases call with
  | nativeAirdrops =>
    exact Composer.returns_sponsored host.recorded (fun _ => Draft.plain_nativeTransfer ..)
      fun _ => rfl
  | tokenAirdrops =>
    refine returns_after fun token => ?_
    exact Composer.returns_sponsored host.recorded (fun _ => Draft.plain_tokenTransfer ..)
      fun _ => (Draft.sender_tokenTransfer ..).1
  | issuance name => exact (plain (Draft.plain_issuance ..) rfl).accounts_single
  | adderDeployments =>
    exact (Composer.returns_deployers host).bind fun _ hps => returns_pure hps
  | move sender receiver | overdraw sender receiver =>
    exact (plain ((Draft.plain_nativeTransfer ..).withGas _) rfl).accounts_single
  | moveBoth sender receiver =>
    have hboth : ∀ token : Token, Returns (c.finish host.recorded (Draft.transfer c.fees
        sender.address receiver Composer.simpleAmount [⟨token, Composer.tokenAmountBesideNative⟩]))
        fun t => t.reservations.map (·.1) = [sender.address] :=
      fun token => plain (Draft.plain_transfer ..) (Moved.ofDraft?_transfer ..).2.1
    exact (returns_after hboth).accounts_single
  | relayed call =>
    refine Returns.accounts_single ((call.books c host).returns.mono ?_)
    rintro t ⟨_, hrelays, -⟩
    exact hrelays.accounts
  | deploy sender amount | deployRefused sender amount =>
    exact (returns_after (deployment sender amount _)).accounts_single
  | callRefused sender contract amount =>
    exact (plain (Draft.plain_call _ _ _ (b := 0x6d) _ _ _ (by decide) (by decide))
      rfl).accounts_single
  | claimRewards sender contract =>
    exact (plain (Draft.plain_call _ _ _ (b := 0x43) _ _ _ (by decide) (by decide))
      rfl).accounts_single

/-! ### Calls that come too late -/

/-- One call: the account stays used up, and if the call is finished it did not need the account. -/
theorem Call.usedUp (host : Host (StateM σ)) (c : Composer) (call : Call)
    (last : s.table.find? a = some lastNonce) :
    let run := Run.runFrom (call.perform c host.recorded) s
    run.2.table.find? a = some lastNonce ∧
      ∀ ts, run.1 = .ok ts → a ∉ accountsOf ts ∧ a ∉ call.accounts c := by
  intro run
  have hrun : Run.runFrom (call.perform c host.recorded) s = (run.1, run.2) := rfl
  obtain ⟨hlast, hfinished⟩ := (call.books c host).usedUp hrun last
  refine ⟨hlast, fun ts hts => ?_⟩
  obtain ⟨_, rfl, hfree⟩ := hfinished ts hts
  have haccounts : accountsOf ts = call.accounts c :=
    call.returns_accounts c host s run.2 ts (hts ▸ hrun)
  exact ⟨hfree, haccounts ▸ hfree⟩

/-- What has become of calls made when an account was used up. -/
structure Barred (a : Address) (calls : List (Composer × Call))
    (results : List (Except RunError (List Signed))) (after : Moment (Recorded σ)) : Prop where
  last : after.table.find? a = some lastNonce
  /-- All that need the account have failed. -/
  failed : List.Forall₂ (fun p r => a ∈ p.2.accounts p.1 → ∃ e, r = .error e) calls results
  /-- No transaction that was returned uses a nonce of the account. -/
  unused : ∀ r ∈ used results, r.1 ≠ a

/-- **An account that is used up is of no use to any later call**, whatever calls these are and
whatever composers they are made with. -/
theorem Call.barred (host : Host (StateM σ)) (calls : List (Composer × Call))
    (last : s.table.find? a = some lastNonce) :
    let run := Call.performAll host.recorded calls s
    Barred a calls run.1 run.2 := by
  induction calls generalizing s with
  | nil => exact ⟨last, .nil, by simp [Call.performAll, used, returned]⟩
  | cons p calls ih =>
    obtain ⟨c, call⟩ := p
    obtain ⟨hlast, hfinished⟩ := call.usedUp host c last
    obtain ⟨hend, hfailed, hunused⟩ := ih hlast
    cases hr : (Run.runFrom (call.perform c host.recorded) s).1 with
    | error e =>
      rw [Call.performAll, hr]
      exact ⟨hend, .cons (fun _ => ⟨e, rfl⟩) hfailed, hunused⟩
    | ok ts =>
      obtain ⟨hfree, hneedless⟩ := hfinished ts hr
      rw [Call.performAll, hr]
      refine ⟨hend, .cons (fun hneeds => absurd hneeds hneedless) hfailed, ?_⟩
      intro r hmem
      rw [used_ok, List.mem_append] at hmem
      rcases hmem with hmem | hmem
      · rintro rfl
        exact hfree (List.mem_map_of_mem hmem)
      · exact hunused r hmem

end ShardClient
