/-
What the builders of relayed transactions hand out and return.

The nonce of the relayer is handed out first, then those of the senders inside, in order.  All
accounts have been looked up before that, so from then on neither signing nor wrapping fails:
the transaction inside an envelope of version two was made without gas, and those inside one
of version three were tagged with the relayer.
-/
import ShardClient.Proofs.Composer.Deploying

namespace ShardClient

/-! ### Envelopes -/

/-- The transaction is an envelope of the relayer around the given ones. -/
structure Wraps (relayer : Address) (nonce : UInt64) (inners : List Signed) (t : Signed) : Prop where
  sender : t.sender = relayer
  nonce : t.nonce = nonce
  carried : t.carried = inners.map Signed.asCarried

theorem Wraps.reservations {relayer : Address} {nonce : UInt64} {inners : List Signed} {t : Signed}
    (h : Wraps relayer nonce inners t) :
    t.reservations = (relayer, nonce) :: inners.map fun i => (i.sender, i.nonce) := by
  rw [Signed.reservations, h.sender, h.nonce, h.carried, List.map_map]
  rfl

variable {fees : FeeSchedule} {relayer : Address} {i t : Signed} {d : Draft}

/-- An envelope around one transaction carries what its payload is read as. -/
theorem carried_envelope {data : Bytes} {gas : Gas}
    (h : (Draft.envelope fees relayer i data gas).Becomes t) :
    t.carried = (Carried.ofPayload? i.sender data).toList := by
  rw [Signed.carried, h.body, h.inner]
  exact List.append_nil _

theorem wraps_relayedV1 (h : (Draft.relayedV1 fees i relayer).Becomes t) :
    Wraps relayer t.nonce [i] t := by
  rw [Draft.relayedV1] at h
  refine ⟨h.sender, rfl, ?_⟩
  rw [carried_envelope h, Carried.ofPayload?_whole]
  rfl

theorem wraps_relayedV2 {gas : Gas} (hd : Draft.relayedV2 fees i gas relayer = .ok d)
    (h : d.Becomes t) : Wraps relayer t.nonce [i] t := by
  obtain ⟨-, rfl⟩ := Draft.relayedV2_eq_ok.1 hd
  refine ⟨h.sender, rfl, ?_⟩
  rw [carried_envelope h, Signature.hex, Carried.ofPayload?_parts]
  rfl

/-- A transaction without gas of its own can be relayed. -/
theorem relayedV2_ok (fees : FeeSchedule) (gas : Gas) (relayer : Address)
    (h : i.body.gasLimit = 0) :
    ∃ d, Draft.relayedV2 fees i gas relayer = .ok d ∧ d.sender = relayer :=
  ⟨_, Draft.relayedV2_eq_ok.2 ⟨h, rfl⟩, rfl⟩

/-- Transactions that name the relayer can be relayed together. -/
theorem relayedV3_ok (fees : FeeSchedule) {inners : List Signed} (hne : inners ≠ [])
    (tagged : ∀ i ∈ inners, i.body.relayer = some relayer) :
    ∃ d, Draft.relayedV3 fees relayer inners = .ok d ∧ d.sender = relayer ∧ d.data = [] ∧
      d.inner = inners :=
  ⟨_, Draft.relayedV3_eq_ok.2 ⟨hne, tagged, rfl⟩, rfl, rfl, rfl⟩

theorem wraps_relayedV3 {inners : List Signed} (hsender : d.sender = relayer) (hdata : d.data = [])
    (hinner : d.inner = inners) (h : d.Becomes t) : Wraps relayer t.nonce inners t := by
  refine ⟨h.sender.trans hsender, rfl, ?_⟩
  rw [Signed.carried, h.body, h.inner, hdata, hinner, Carried.ofPayload?_eq_none _ (by simp)]
  rfl

/-! ### The builders -/

/-- What is handed out and returned by a builder of relayed transactions. -/
structure Relays (relayer : Address) (senders receivers : List Address) (rs : List Reservation)
    (t : Signed) : Prop where
  reservations : rs = t.reservations
  sender : t.sender = relayer
  senders : t.carried.map (·.sender) = senders
  receivers : t.carried.map (·.receiver) = receivers

/-- An envelope around one transaction, made of a draft. -/
theorem relays_single (hi : d.Becomes i) (h : Wraps relayer t.nonce [i] t) :
    Relays relayer [d.sender] [d.receiver] [(relayer, t.nonce), (i.sender, i.nonce)] t := by
  refine ⟨h.reservations.symm, h.sender, ?_, ?_⟩
  · rw [h.carried, ← hi.sender]
    rfl
  · rw [h.carried, show d.receiver = i.body.receiver by rw [hi.body]]
    rfl

namespace Composer

variable {σ : Type} {c : Composer} (host : Host (StateM σ))

theorem books_lookups (c : Composer) (accounts : List Account) :
    Books (accounts.forM fun a => discard (c.managed a.address) : Run (StateM (Recorded σ)) Unit)
      (fun rs _ => rs = [] ∧ ∀ a ∈ accounts, c.Managed a.address) Refuses := by
  induction accounts with
  | nil => exact books_pure ⟨rfl, by simp⟩
  | cons a accounts ih =>
    have hfirst : Books (discard (c.managed a.address) : Run (StateM (Recorded σ)) Unit)
        (fun rs _ => rs = [] ∧ c.Managed a.address) Refuses :=
      (books_managed c a.address).after fun account h => books_pure ⟨rfl, account, h⟩
    refine hfirst.after fun _ ha => ih.mono ?_ fun _ _ h => h
    rintro rs _ ⟨hrs, hall⟩
    exact ⟨hrs, List.forall_mem_cons.2 ⟨ha, hall⟩⟩

/-- Once the nonce of the relayer is handed out, all accounts have been looked up. -/
theorem books_reserveRelayer (c : Composer) (relayer : Account) (senders : List Account) :
    Books (c.reserveRelayer host.recorded relayer senders)
      (fun rs n => rs = [(relayer.address, n)] ∧ c.Managed relayer.address ∧
        ∀ s ∈ senders, c.Managed s.address) Refuses := by
  refine (books_lookups c senders).after fun _ hsenders => ?_
  refine (books_managed c relayer.address).after fun account haccount => ?_
  refine books_reserveNonce host account.address fun n => ?_
  rw [(Registry.account_owns haccount).1]
  exact ⟨rfl, ⟨account, haccount⟩, hsenders⟩

theorem books_relayV1 {relayer : Account} {d : Draft} (hrelayer : c.Managed relayer.address)
    (hsender : c.Managed d.sender) (nonce : UInt64) :
    Books (c.relayV1 host.recorded relayer nonce d)
      (fun rs t => Relays relayer.address [d.sender] [d.receiver]
        ((relayer.address, nonce) :: rs) t) Never := by
  refine (books_finish_managed host hsender).andThen ?_
  rintro _ i ⟨rfl, hi⟩
  refine (books_sign hrelayer).mono ?_ fun _ _ h => h
  rintro _ t ⟨rfl, hnonce, ht⟩
  obtain rfl : t.nonce = nonce := hnonce
  exact relays_single hi (wraps_relayedV1 ht)

/-- All builders of version one reserve and then relay a draft. -/
theorem books_relayedV1 (c : Composer) (relayer sender : Account) {receiver : Address} {d : Draft}
    (hsender : d.sender = sender.address) (hreceiver : d.receiver = receiver) :
    Books (do c.relayV1 host.recorded relayer (← c.reserveRelayer host.recorded relayer [sender]) d)
      (Relays relayer.address [sender.address] [receiver]) Refuses := by
  refine (books_reserveRelayer host c relayer [sender]).committing ?_
  rintro _ n ⟨rfl, hrelayer, hsenders⟩
  rw [← hsender, ← hreceiver]
  exact books_relayV1 host hrelayer (hsender ▸ hsenders sender List.mem_cons_self) n

theorem books_relayedMoveV1 (relayer sender : Account) (receiver : Address) (amount : Amount) :
    Books (c.relayedMoveV1 host.recorded relayer sender receiver amount)
      (Relays relayer.address [sender.address] [receiver]) Refuses :=
  books_relayedV1 host c relayer sender rfl rfl

theorem books_relayedTokensV1 (relayer sender : Account) (receiver : Address) (amount : Amount) :
    Books (c.relayedTokensV1 host.recorded relayer sender receiver amount)
      (Relays relayer.address [sender.address] [receiver]) Refuses :=
  (books_token c).after fun _ h => books_relayedV1 host c relayer sender
    (tokenTransfer_fungible h ..).1 (tokenTransfer_fungible h ..).2

theorem books_relayedCallRefusedV1 (relayer sender : Account) (contract : Address)
    (amount : Amount) :
    Books (c.relayedCallRefusedV1 host.recorded relayer sender contract amount)
      (Relays relayer.address [sender.address] [contract]) Refuses :=
  books_relayedV1 host c relayer sender rfl rfl

theorem books_relayedMoveV2 (relayer sender : Account) (receiver : Address) (amount : Amount) :
    Books (c.relayedMoveV2 host.recorded relayer sender receiver amount)
      (Relays relayer.address [sender.address] [receiver]) Refuses := by
  refine (books_reserveRelayer host c relayer [sender]).committing ?_
  rintro _ n ⟨rfl, hrelayer, hsenders⟩
  refine (books_finish_managed host (hsenders sender List.mem_cons_self)).andThen ?_
  rintro _ i ⟨rfl, hi⟩
  have hgas : i.body.gasLimit = 0 := by rw [hi.body]
  obtain ⟨d, hd, hsender⟩ := relayedV2_ok c.fees relayedV2InnerGas relayer.address hgas
  rw [hd]
  rw [← hsender] at hrelayer
  refine (books_sign (t := d.number n) hrelayer).mono ?_ fun _ _ h => h
  rintro _ t ⟨rfl, hnonce, ht⟩
  obtain rfl : t.nonce = n := hnonce
  exact relays_single hi (wraps_relayedV2 hd ht)

/-- The draft of one transfer among those that are relayed together. -/
def taggedMove (c : Composer) (relayer : Account) (amount : Amount) (p : Account × Address) :
    Draft :=
  { Draft.nativeTransfer c.fees p.1.address p.2 amount with relayer := some relayer.address }

theorem map_becomes {c : Composer} {relayer : Account} {amount : Amount} {inners : List Signed}
    {pairs : List (Account × Address)}
    (h : List.Forall₂ (fun p i => (c.taggedMove relayer amount p).Becomes i) pairs inners) :
    inners.map (·.sender) = pairs.map (·.1.address) ∧
      inners.map (·.body.receiver) = pairs.map (·.2) ∧
      ∀ i ∈ inners, i.body.value = amount ∧ i.body.relayer = some relayer.address := by
  induction h with
  | nil => exact ⟨rfl, rfl, by simp⟩
  | @cons p i pairs inners hi _ ih =>
    obtain ⟨hsenders, hreceivers, hall⟩ := ih
    refine ⟨?_, ?_, List.forall_mem_cons.2 ⟨?_, hall⟩⟩
    · rw [List.map_cons, List.map_cons, hsenders, hi.sender]
      rfl
    · rw [List.map_cons, List.map_cons, hreceivers, hi.body]
      rfl
    · rw [hi.body]
      exact ⟨rfl, rfl⟩

/-- Version three: each transaction inside moves the amount and names the relayer. -/
theorem books_relayedMovesV3 (relayer : Account) (senders : List Account)
    (receivers : List Address) (amount : Amount) :
    Books (c.relayedMovesV3 host.recorded relayer senders receivers amount)
      (fun rs t => Relays relayer.address (senders.map (·.address)) receivers rs t ∧
        t.carried = t.inner.map Signed.asCarried ∧
        ∀ i ∈ t.inner, i.body.value = amount ∧ i.body.relayer = some relayer.address) Refuses := by
  unfold relayedMovesV3
  by_cases hlength : senders.length = receivers.length
  swap
  · rw [if_pos hlength]
    exact books_throw ⟨rfl, trivial⟩
  by_cases hempty : senders.isEmpty = true
  · rw [if_neg (not_not_intro hlength), if_pos hempty]
    exact books_throw ⟨rfl, trivial⟩
  rw [if_neg (not_not_intro hlength), if_neg hempty]
  have hsenders : (senders.zip receivers).map (·.1.address) = senders.map (·.address) := by
    have hfst : (senders.zip receivers).map (·.1) = senders := List.map_fst_zip (by omega)
    calc (senders.zip receivers).map (·.1.address)
        = ((senders.zip receivers).map (·.1)).map (·.address) := List.map_map.symm
      _ = senders.map (·.address) := by rw [hfst]
  have hreceivers : (senders.zip receivers).map (·.2) = receivers := List.map_snd_zip (by omega)
  refine (books_reserveRelayer host c relayer senders).committing ?_
  rintro _ n ⟨rfl, hrelayer, hmanaged⟩
  have heach : ∀ p ∈ senders.zip receivers,
      Books (c.finish host.recorded (c.taggedMove relayer amount p))
        (fun rs i => rs = [(i.sender, i.nonce)] ∧ (c.taggedMove relayer amount p).Becomes i)
        Never :=
    fun p hp => books_finish_managed host (hmanaged p.1 (List.of_mem_zip hp).1)
  refine (books_mapM heach).andThen ?_
  rintro _ inners ⟨rfl, hinners⟩
  obtain ⟨hs, hr, hall⟩ := map_becomes hinners
  have hne : inners ≠ [] := by
    rintro rfl
    rw [hsenders] at hs
    simp_all
  obtain ⟨d, hd, hsender, hdata, hinner⟩ := relayedV3_ok c.fees hne fun i hi => (hall i hi).2
  rw [hd]
  rw [← hsender] at hrelayer
  refine (books_sign (t := d.number n) hrelayer).mono ?_ fun _ _ h => h
  rintro _ t ⟨rfl, hnonce, ht⟩
  obtain rfl : t.nonce = n := hnonce
  have hwraps := wraps_relayedV3 hsender hdata hinner ht
  have hin : t.inner = inners := ht.inner.trans hinner
  refine ⟨⟨?_, hwraps.sender, ?_, ?_⟩, ?_, ?_⟩
  · rw [hwraps.reservations, List.append_nil, List.map_eq_flatMap]
    rfl
  · rw [hwraps.carried, List.map_map, ← hsenders, ← hs]
    rfl
  · rw [hwraps.carried, List.map_map, ← hreceivers, ← hr]
    rfl
  · rw [hwraps.carried, hin]
  · rw [hin]
    exact hall

end Composer

/-! ### Calls -/

/-- What the transactions inside an envelope of version three are: the list that it has, each
moving the amount and naming the relayer. -/
def RelayedCall.Lists (t : Signed) : RelayedCall → Prop
  | movesV3 relayer _ _ amount => t.carried = t.inner.map Signed.asCarried ∧
    ∀ i ∈ t.inner, i.body.value = amount ∧ i.body.relayer = some relayer.address
  | _ => True

theorem RelayedCall.books {σ : Type} (c : Composer) (host : Host (StateM σ)) (call : RelayedCall) :
    Books (call.perform c host.recorded)
      (fun rs t => Relays call.relayer call.senders call.receivers rs t ∧ call.Lists t)
      Refuses := by
  cases call with
  | moveV1 relayer sender receiver amount =>
    exact (Composer.books_relayedMoveV1 host relayer sender receiver amount).mono
      (fun _ _ h => ⟨h, trivial⟩) fun _ _ h => h
  | tokensV1 relayer sender receiver amount =>
    exact (Composer.books_relayedTokensV1 host relayer sender receiver amount).mono
      (fun _ _ h => ⟨h, trivial⟩) fun _ _ h => h
  | refusedV1 relayer sender contract amount =>
    exact (Composer.books_relayedCallRefusedV1 host relayer sender contract amount).mono
      (fun _ _ h => ⟨h, trivial⟩) fun _ _ h => h
  | moveV2 relayer sender receiver amount =>
    exact (Composer.books_relayedMoveV2 host relayer sender receiver amount).mono
      (fun _ _ h => ⟨h, trivial⟩) fun _ _ h => h
  | movesV3 relayer senders receivers amount =>
    exact Composer.books_relayedMovesV3 host relayer senders receivers amount

/-- Returning one transaction as a list of one. -/
theorem Books.single {σ : Type} {x : Run (StateM (Recorded σ)) Signed}
    {stop : List Reservation → RunError → Prop} (h : Books x (fun rs t => rs = t.reservations) stop) :
    Books (do return [← x]) (fun rs ts => rs = ts.flatMap Signed.reservations) stop := by
  refine h.bind (fun _ _ h => h) ?_
  rintro _ t rfl
  exact books_pure (by simp)

/-- **What a call hands out is what its transactions use**, in order; and a call other than that
of the deployments stops by itself only before it hands anything out. -/
theorem Call.books {σ : Type} (c : Composer) (host : Host (StateM σ)) (call : Call) :
    Books (call.perform c host.recorded) (fun rs ts => rs = ts.flatMap Signed.reservations)
      (fun rs e => call ≠ .adderDeployments → Refuses rs e) := by
  have refused : ∀ {x : Run (StateM (Recorded σ)) (List Signed)},
      Books x (fun rs ts => rs = ts.flatMap Signed.reservations) Refuses →
      Books x (fun rs ts => rs = ts.flatMap Signed.reservations)
        (fun rs e => call ≠ .adderDeployments → Refuses rs e) :=
    fun h => h.mono (fun _ _ h => h) fun _ _ h _ => h
  cases call with
  | nativeAirdrops => exact refused (Composer.books_nativeAirdrops host)
  | issuance name => exact refused (Composer.books_issuance host name).single
  | tokenAirdrops => exact refused (Composer.books_tokenAirdrops host)
  | adderDeployments =>
    refine (Composer.books_adderDeployments host).bind (fun _ _ _ h => absurd rfl h) ?_
    rintro _ ps ⟨rfl, -⟩
    exact books_pure (List.append_nil _)
  | move sender receiver => exact refused (Composer.books_overpaid host sender receiver _).single
  | overdraw sender receiver =>
    exact refused (Composer.books_overpaid host sender receiver _).single
  | moveBoth sender receiver => exact refused (Composer.books_moveBoth host sender receiver).single
  | relayed call =>
    exact refused ((call.books c host).mono (fun _ _ h => h.1.reservations) fun _ _ h => h).single
  | deploy sender amount => exact refused (Composer.books_deploy host sender amount).single
  | deployRefused sender amount =>
    exact refused (Composer.books_deployRefused host sender amount).single
  | callRefused sender contract amount =>
    exact refused (Composer.books_callRefused host sender contract amount).single
  | claimRewards sender contract =>
    exact refused (Composer.books_claimRewards host sender contract).single

end ShardClient
