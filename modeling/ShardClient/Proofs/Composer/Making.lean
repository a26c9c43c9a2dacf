/-
What the builders are made of.

Whatever a builder does, it does by few means: it looks things up, which may end it; it writes to
the log; and it reserves nonces, but only for the accounts that it was called for.  `Made` says so
of a run, for a class of accounts, and says besides when the run may end for a fault of the
configuration.  For the builders there is one such case: tokens are to be moved, and there is no
currency.  What is proved of all runs that are made in this way is thereby proved of every builder.
-/
import ShardClient.Proofs.Composer.Call
import ShardClient.Proofs.Run.Upcoming
import ShardClient.Proofs.Transaction.Moved

namespace ShardClient

variable {σ ε α β : Type}

/-- The run is made of lookups, lines of the log, and reservations for accounts of its own.  It
stops by itself for a fault of the configuration only if something is lacking there. -/
inductive Made (host : Host (StateM σ)) (own : Address → Prop) (lacking : Prop) :
    {α : Type} → Run (StateM σ) α → Prop
  | pure {α : Type} (a : α) : Made host own lacking (pure a : Run (StateM σ) α)
  | throw {α : Type} {e : RunError} (h : ∀ cause, e = .configuration cause → lacking) :
    Made host own lacking (throw e : Run (StateM σ) α)
  | info (text : String) : Made host own lacking (Run.act (host.info text))
  | reserve {a : Address} (h : own a) : Made host own lacking (reserveNonce host a)
  | bind {α β : Type} {x : Run (StateM σ) α} {f : α → Run (StateM σ) β}
    (first : Made host own lacking x) (rest : ∀ a, Made host own lacking (f a)) :
    Made host own lacking (x >>= f)

variable {host : Host (StateM σ)} {own : Address → Prop} {lacking : Prop}

/-! ### Rules -/

theorem Made.mono {own' : Address → Prop} {lacking' : Prop} {x : Run (StateM σ) α}
    (h : Made host own lacking x) (hown : ∀ a, own a → own' a) (hlacking : lacking → lacking') :
    Made host own' lacking' x := by
  induction h with
  | pure a => exact .pure a
  | throw h => exact .throw fun cause hcause => hlacking (h cause hcause)
  | info text => exact .info text
  | reserve h => exact .reserve (hown _ h)
  | bind _ _ ihfirst ihrest => exact .bind ihfirst ihrest

/-- A lookup. -/
theorem made_ofExcept {wrap : ε → RunError} (hwrap : ∀ e cause, wrap e ≠ .configuration cause)
    (found : Except ε α) :
    Made host own lacking (Run.ofExcept wrap found : Run (StateM σ) α) := by
  cases found with
  | ok a => exact .pure a
  | error e => exact .throw fun cause h => absurd h (hwrap e cause)

/-- What follows a lookup works with what has been found. -/
theorem Made.found {wrap : ε → RunError} (hwrap : ∀ e cause, wrap e ≠ .configuration cause)
    {found : Except ε α} {f : α → Run (StateM σ) β}
    (h : ∀ a, found = .ok a → Made host own lacking (f a)) :
    Made host own lacking (Run.ofExcept wrap found >>= f) := by
  cases found with
  | ok a =>
    show Made host own lacking (Pure.pure a >>= f)
    rw [pure_bind]
    exact h a rfl
  | error e =>
    show Made host own lacking (MonadExcept.throw (wrap e))
    exact .throw fun cause h => absurd h (hwrap e cause)

theorem made_mapM {items : List β} {g : β → Run (StateM σ) α}
    (h : ∀ b ∈ items, Made host own lacking (g b)) : Made host own lacking (items.mapM g) := by
  induction items with
  | nil =>
    rw [List.mapM_nil]
    exact .pure []
  | cons b items ih =>
    rw [List.forall_mem_cons] at h
    rw [List.mapM_cons]
    exact h.1.bind fun a => (ih h.2).bind fun as => .pure (a :: as)

/-- The run is no matter to accounts that are not its own. -/
theorem Made.outside {x : Run (StateM σ) α} (h : Made host own lacking x) {a : Address}
    (ha : ¬own a) (s : Moment σ) : (Run.runFrom x s).2.table.find? a = s.table.find? a := by
  induction h generalizing s with
  | pure | throw | info => rfl
  | reserve hown =>
    refine find?_reserveNonce ?_ s
    rintro rfl
    exact ha hown
  | @bind _ _ x f _ _ ihfirst ihrest =>
    have hfirst := ihfirst s
    rcases hx : Run.runFrom x s with ⟨r, s₁⟩
    rw [hx] at hfirst
    cases r with
    | error e =>
      rw [Run.runFrom_bind_error hx]
      exact hfirst
    | ok v =>
      rw [Run.runFrom_bind_ok hx, ihrest v s₁]
      exact hfirst

namespace Composer

variable {c : Composer} {d : Draft}

/-! ### Steps -/

theorem made_managed (a : Address) : Made host own lacking (c.managed a) :=
  made_ofExcept nofun _

theorem made_code (file : String) : Made host own lacking (c.code file) :=
  made_ofExcept nofun _

theorem made_token (h : c.currency = none → lacking) : Made host own lacking c.token := by
  unfold token
  cases hcurrency : c.currency with
  | some identifier => exact .pure _
  | none => exact .throw fun _ _ => h hcurrency

theorem made_sign (t : Numbered) : Made host own lacking (c.sign t) := by
  apply (made_managed t.sender).bind
  intro account
  exact made_ofExcept nofun (t.sign account.signer)

/-- Finishing a draft reserves a nonce of its sender, for this is whom the lookup finds. -/
theorem made_finish (h : own d.sender) : Made host own lacking (c.finish host d) := by
  refine Made.found nofun fun account haccount => ?_
  rw [← (Registry.account_owns haccount).1] at h
  exact (Made.reserve h).bind fun _ => made_sign _

theorem made_reserveRelayer {relayer : Account} (h : own relayer.address)
    (senders : List Account) : Made host own lacking (c.reserveRelayer host relayer senders) := by
  have hlookups : Made host own lacking
      (senders.forM fun sender => discard (c.managed sender.address)) := by
    induction senders with
    | nil => exact .pure ()
    | cons sender senders ih =>
      have hlookup : Made host own lacking (discard (c.managed sender.address)) :=
        (made_managed sender.address).bind fun _ => .pure ()
      exact hlookup.bind fun _ => ih
  apply hlookups.bind
  intro _
  refine Made.found nofun fun account haccount => ?_
  rw [← (Registry.account_owns haccount).1] at h
  exact .reserve h

/-! ### Plain transactions -/

theorem made_nativeAirdrops (h : ∀ user ∈ c.registry.users, own c.registry.sponsor.address) :
    Made host own lacking (c.nativeAirdrops host) :=
  made_mapM fun user huser => made_finish (h user huser)

theorem made_issuance (h : own c.registry.sponsor.address) (name : String) :
    Made host own lacking (c.issuance host name) :=
  made_finish h

theorem made_tokenAirdrops (h : ∀ user ∈ c.registry.users, own c.registry.sponsor.address)
    (hcurrency : c.currency = none → lacking) :
    Made host own lacking (c.tokenAirdrops host) := by
  apply (made_token hcurrency).bind
  intro token
  refine made_mapM fun user huser => made_finish ?_
  rw [(Draft.sender_tokenTransfer ..).1]
  exact h user huser

section

variable {sender : Account}

theorem made_overpaid (h : own sender.address) (receiver : Address) (amount : Amount) :
    Made host own lacking (c.overpaid host sender receiver amount) :=
  made_finish h

theorem made_moveBoth (h : own sender.address) (receiver : Address)
    (hcurrency : c.currency = none → lacking) :
    Made host own lacking (c.moveBoth host sender receiver) := by
  apply (made_token hcurrency).bind
  intro token
  refine made_finish ?_
  rw [(Moved.ofDraft?_transfer ..).2.1]
  exact h

theorem made_deploy (h : own sender.address) (amount : Amount) :
    Made host own lacking (c.deploy host sender amount) :=
  (made_code dummyFile).bind fun _ => made_finish h

theorem made_deployRefused (h : own sender.address) (amount : Amount) :
    Made host own lacking (c.deployRefused host sender amount) :=
  (made_code adderFile).bind fun _ => made_finish h

theorem made_callRefused (h : own sender.address) (contract : Address) (amount : Amount) :
    Made host own lacking (c.callRefused host sender contract amount) :=
  made_finish h

theorem made_claimRewards (h : own sender.address) (contract : Address) :
    Made host own lacking (c.claimRewards host sender contract) :=
  made_finish h

end

/-! ### Deployments in every shard -/

/-- The accounts that deploy the adder: the first user of each shard that has one. -/
def deployers (c : Composer) : List Address :=
  (List.range c.registry.sharding.count.toNat).filterMap fun shard =>
    (c.registry.user (UInt32.ofNat shard) 0).toOption.map (·.address)

theorem made_adderDeployment (code : Bytes) {shard : ShardId}
    (h : ∀ deployer, c.registry.user shard 0 = .ok deployer → own deployer.address) :
    Made host own lacking (c.adderDeployment host code shard) := by
  refine Made.found nofun fun deployer hdeployer => ?_
  apply (made_finish (h deployer hdeployer)).bind
  intro t
  exact (Made.info _).bind fun _ => .pure _

theorem made_adderDeploymentsFrom (code : Bytes) {shard count : Nat}
    (h : ∀ k, shard ≤ k → k < shard + count → ∀ deployer,
      c.registry.user (UInt32.ofNat k) 0 = .ok deployer → own deployer.address) :
    Made host own lacking (c.adderDeploymentsFrom host code shard count) := by
  induction count generalizing shard with
  | zero => exact .pure []
  | succ count ih =>
    have hfirst := h shard (Nat.le_refl _) (by omega)
    have hrest : Made host own lacking (c.adderDeploymentsFrom host code (shard + 1) count) :=
      ih fun k hle hlt => h k (by omega) (by omega)
    exact (made_adderDeployment code hfirst).bind fun first => hrest.bind fun rest => .pure _

theorem made_adderDeployments (h : ∀ a ∈ c.deployers, own a) :
    Made host own lacking (c.adderDeployments host) := by
  apply (made_code adderFile).bind
  intro code
  refine made_adderDeploymentsFrom code ?_
  intro k _ hlt deployer hdeployer
  refine h _ (List.mem_filterMap.2 ⟨k, List.mem_range.2 (by omega), ?_⟩)
  rw [hdeployer]
  rfl

/-! ### Relayed transactions -/

section

variable {relayer sender : Account}

theorem made_relayV1 (h : own d.sender) (nonce : UInt64) :
    Made host own lacking (c.relayV1 host relayer nonce d) :=
  (made_finish h).bind fun _ => made_sign _

theorem made_relayedMoveV1 (hrelayer : own relayer.address) (hsender : own sender.address)
    (receiver : Address) (amount : Amount) :
    Made host own lacking (c.relayedMoveV1 host relayer sender receiver amount) :=
  (made_reserveRelayer hrelayer _).bind fun _ => made_relayV1 hsender _

theorem made_relayedTokensV1 (hrelayer : own relayer.address) (hsender : own sender.address)
    (receiver : Address) (amount : Amount) (hcurrency : c.currency = none → lacking) :
    Made host own lacking (c.relayedTokensV1 host relayer sender receiver amount) := by
  apply (made_token hcurrency).bind
  intro token
  apply (made_reserveRelayer hrelayer _).bind
  intro _
  refine made_relayV1 ?_ _
  rw [(Draft.sender_tokenTransfer ..).1]
  exact hsender

theorem made_relayedCallRefusedV1 (hrelayer : own relayer.address) (hsender : own sender.address)
    (contract : Address) (amount : Amount) :
    Made host own lacking (c.relayedCallRefusedV1 host relayer sender contract amount) :=
  (made_reserveRelayer hrelayer _).bind fun _ => made_relayV1 hsender _

theorem made_relayedMoveV2 (hrelayer : own relayer.address) (hsender : own sender.address)
    (receiver : Address) (amount : Amount) :
    Made host own lacking (c.relayedMoveV2 host relayer sender receiver amount) := by
  apply (made_reserveRelayer hrelayer _).bind
  intro nonce
  apply (made_finish hsender).bind
  intro inner
  exact (made_ofExcept nofun _).bind fun envelope => made_sign _

theorem made_relayedMovesV3 (hrelayer : own relayer.address) {senders : List Account}
    (hsenders : ∀ sender ∈ senders, own sender.address) (receivers : List Address)
    (amount : Amount) :
    Made host own lacking (c.relayedMovesV3 host relayer senders receivers amount) := by
  unfold relayedMovesV3
  by_cases hlength : senders.length = receivers.length
  swap
  · rw [if_pos hlength]
    exact .throw nofun
  by_cases hempty : senders.isEmpty = true
  · rw [if_neg (not_not_intro hlength), if_pos hempty]
    exact .throw nofun
  rw [if_neg (not_not_intro hlength), if_neg hempty]
  apply (made_reserveRelayer hrelayer _).bind
  intro nonce
  refine (made_mapM fun p hp => made_finish (hsenders p.1 (List.of_mem_zip hp).1)).bind ?_
  intro inners
  exact (made_ofExcept nofun _).bind fun envelope => made_sign _

end

end Composer

/-! ### Calls -/

/-- The accounts for which a call may reserve nonces. -/
def Call.accounts (c : Composer) : Call → List Address
  | nativeAirdrops | tokenAirdrops => c.registry.users.map fun _ => c.registry.sponsor.address
  | issuance _ => [c.registry.sponsor.address]
  | adderDeployments => c.deployers
  | move sender _ | overdraw sender _ | moveBoth sender _ | deploy sender _
  | deployRefused sender _ | callRefused sender _ _ | claimRewards sender _ => [sender.address]
  | relayed call => call.relayer :: call.senders

/-- Made of steps, with the result put into a list. -/
theorem Made.single {x : Run (StateM σ) α} (h : Made host own lacking x) :
    Made host own lacking (do return [← x]) :=
  h.bind fun _ => .pure _

/-- A call of a builder of relayed transactions reserves nonces of the relayer and the senders. -/
theorem RelayedCall.made (c : Composer) (host : Host (StateM σ)) (call : RelayedCall) :
    Made host (· ∈ call.relayer :: call.senders) (c.currency = none) (call.perform c host) := by
  have hrelayer : call.relayer ∈ call.relayer :: call.senders := List.mem_cons_self
  have hsenders : ∀ a ∈ call.senders, a ∈ call.relayer :: call.senders :=
    fun a ha => List.mem_cons_of_mem _ ha
  cases call with
  | moveV1 relayer sender receiver amount =>
    exact Composer.made_relayedMoveV1 hrelayer (hsenders _ List.mem_cons_self) receiver amount
  | tokensV1 relayer sender receiver amount =>
    exact Composer.made_relayedTokensV1 hrelayer (hsenders _ List.mem_cons_self) receiver amount id
  | refusedV1 relayer sender contract amount =>
    exact Composer.made_relayedCallRefusedV1 hrelayer (hsenders _ List.mem_cons_self) contract
      amount
  | moveV2 relayer sender receiver amount =>
    exact Composer.made_relayedMoveV2 hrelayer (hsenders _ List.mem_cons_self) receiver amount
  | movesV3 relayer senders receivers amount =>
    refine Composer.made_relayedMovesV3 hrelayer ?_ receivers amount
    intro sender hsender
    exact hsenders _ (List.mem_map_of_mem hsender)

/-- **A call reserves nonces of its own accounts only**, and ends for a fault of the configuration
only if there is no currency. -/
theorem Call.made (c : Composer) (host : Host (StateM σ)) (call : Call) :
    Made host (· ∈ call.accounts c) (c.currency = none) (call.perform c host) := by
  have hsponsor : ∀ user ∈ c.registry.users,
      c.registry.sponsor.address ∈ c.registry.users.map fun _ => c.registry.sponsor.address :=
    fun user huser => List.mem_map.2 ⟨user, huser, rfl⟩
  cases call with
  | nativeAirdrops => exact Composer.made_nativeAirdrops hsponsor
  | issuance name => exact (Composer.made_issuance List.mem_cons_self name).single
  | tokenAirdrops => exact Composer.made_tokenAirdrops hsponsor id
  | adderDeployments => exact (Composer.made_adderDeployments fun _ h => h).bind fun _ => .pure _
  | move sender receiver => exact (Composer.made_overpaid List.mem_cons_self receiver _).single
  | overdraw sender receiver => exact (Composer.made_overpaid List.mem_cons_self receiver _).single
  | moveBoth sender receiver =>
    exact (Composer.made_moveBoth List.mem_cons_self receiver id).single
  | relayed call => exact (call.made c host).single
  | deploy sender amount => exact (Composer.made_deploy List.mem_cons_self amount).single
  | deployRefused sender amount =>
    exact (Composer.made_deployRefused List.mem_cons_self amount).single
  | callRefused sender contract amount =>
    exact (Composer.made_callRefused List.mem_cons_self contract amount).single
  | claimRewards sender contract =>
    exact (Composer.made_claimRewards List.mem_cons_self contract).single

end ShardClient
