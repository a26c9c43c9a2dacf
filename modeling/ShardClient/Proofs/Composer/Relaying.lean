/-
The nonces of one relayed transaction.

The ledger of a single call begins with the table as it stands.  What a call hands out to an
account is consecutive, so a nonce is known from its place: it is the first one of its account,
plus the number of those handed out to the same account before.  Applied to the relayer, whose
nonce comes first, and to the senders inside, who may be the same accounts in any pattern, this
says which nonce each transaction gets.
-/
import ShardClient.Proofs.Composer.Relays
import ShardClient.Simulation.Network

namespace ShardClient

/-- How many nonces of an account are among those handed out. -/
theorem length_noncesOf (a : Address) (rs : List Reservation) :
    (noncesOf a rs).length = (rs.map (·.1)).count a := by
  rw [noncesOf, List.length_map, List.count, List.countP_map, List.countP_eq_length_filter]
  rfl

/-- A nonce is known from its place among those handed out. -/
theorem nonce_of_place {rs : List Reservation} {a : Address} {first count j : Nat} {n : UInt64}
    (h : noncesOf a rs = List.range' first count) (hj : rs[j]? = some (a, n)) :
    n.toNat = first + ((rs.take j).map (·.1)).count a := by
  obtain ⟨hlt, hget⟩ := List.getElem?_eq_some_iff.1 hj
  have hsplit : rs = rs.take j ++ [(a, n)] ++ rs.drop (j + 1) := by
    rw [← hget, List.take_append_getElem, List.take_append_drop]
  have hnonces : List.range' first count
      = noncesOf a (rs.take j) ++ n.toNat :: noncesOf a (rs.drop (j + 1)) := by
    rw [← h]
    conv_lhs => rw [hsplit]
    rw [noncesOf_append, noncesOf_append, noncesOf_cons_self, List.append_assoc]
    rfl
  have hplace : (List.range' first count)[(noncesOf a (rs.take j)).length]? = some n.toNat := by
    rw [hnonces, List.getElem?_append_right (Nat.le_refl _), Nat.sub_self]
    rfl
  obtain ⟨_, hvalue⟩ := List.getElem?_eq_some_iff.1 hplace
  rw [List.getElem_range', length_noncesOf] at hvalue
  omega

/-- An account that has been handed nonces: they begin with the first one known, and the table
has moved on by their number. -/
theorem Ledger.account {σ : Type} {before : NonceTable} {s : Moment (Recorded σ)}
    {spent : List Reservation} {a : Address} (h : Ledger before s spent)
    (ha : a ∈ spent.map (·.1)) :
    ∃ first next, firstNonce before s.world.exchanges a = some first ∧
      s.table.find? a = some next ∧
      next.toNat = first.toNat + (spent.map (·.1)).count a ∧
      noncesOf a spent = List.range' first.toNat ((spent.map (·.1)).count a) := by
  have hcount := length_noncesOf a spent
  have htally := h a
  generalize noncesOf a spent = nonces at hcount htally ⊢
  generalize firstNonce before s.world.exchanges a = known at htally ⊢
  generalize s.table.find? a = cached at htally ⊢
  cases htally with
  | unknown =>
    have hpos := List.count_pos_iff.2 ha
    rw [← hcount] at hpos
    exact absurd hpos (Nat.lt_irrefl 0)
  | @counting first next count hnext =>
    rw [List.length_range'] at hcount
    subst hcount
    exact ⟨first, next, rfl, rfl, hnext, rfl⟩

/-- What a finished call leaves behind. -/
theorem RelayedCall.finished {σ : Type} {host : Host (StateM σ)} {c : Composer}
    {call : RelayedCall} {s after : Moment (Recorded σ)} {t : Signed}
    (h : Run.runFrom (call.perform c host.recorded) s = (.ok t, after)) :
    Steps s t.reservations after ∧ call.Lists t ∧
      Relays call.relayer call.senders call.receivers t.reservations t := by
  obtain ⟨rs, steps, hrelays, hlists⟩ := (call.books c host).of_ok h
  rw [hrelays.reservations] at steps hrelays
  exact ⟨steps, hlists, hrelays⟩

/-- The accounts whose nonces are used: the relayer, and the senders inside. -/
theorem Relays.accounts {relayer : Address} {senders receivers : List Address}
    {rs : List Reservation} {t : Signed} (h : Relays relayer senders receivers rs t) :
    t.reservations.map (·.1) = relayer :: senders := by
  rw [Signed.reservations, List.map_cons, List.map_map, h.sender, ← h.senders]
  rfl

/-- How a relayed transaction is numbered, from a table up to the moment behind the call, if `next`
are the nonces that come next. -/
structure RelayedCall.Numbers {σ : Type} (call : RelayedCall) (table : NonceTable)
    (after : Moment (Recorded σ)) (next : Address → UInt64) (t : Signed) : Prop where
  /-- The next nonces are those in the table, or told by the network during the call. -/
  known : ∀ a ∈ call.relayer :: call.senders,
    (table.find? a).or (firstFetched a after.world.exchanges) = some (next a)
  sender : t.sender = call.relayer
  nonce : t.nonce = next call.relayer
  senders : t.carried.map (·.sender) = call.senders
  receivers : t.carried.map (·.receiver) = call.receivers
  /-- A transaction inside comes behind the envelope, if that is from the same account, and behind
  those before it that are. -/
  nonces : ∀ i (hi : i < t.carried.length), t.carried[i].nonce.toNat =
    (next t.carried[i].sender).toNat + (if t.carried[i].sender = call.relayer then 1 else 0) +
      (call.senders.take i).count t.carried[i].sender
  lists : call.Lists t
  /-- The accounts involved have moved on by the transactions that they send. -/
  moved : ∀ a ∈ call.relayer :: call.senders, ∃ cached, after.table.find? a = some cached ∧
    cached.toNat = (next a).toNat + (call.relayer :: call.senders).count a
  others : ∀ a, a ∉ call.relayer :: call.senders → after.table.find? a = table.find? a

/-- **Which nonces a relayed transaction gets.**  Whatever is in the table, whatever the network
answers and whichever accounts are the same, a call that is finished numbers the envelope and
the transactions inside it as they stand. -/
theorem relayed_nonces {σ : Type} (host : Host (StateM σ)) (c : Composer) (call : RelayedCall)
    (table : NonceTable) (world : σ) {t : Signed} {after : Moment (Recorded σ)}
    (h : Run.runFrom (call.perform c host.recorded) ⟨table, ⟨world, []⟩⟩ = (.ok t, after)) :
    ∃ next : Address → UInt64, call.Numbers table after next t := by
  obtain ⟨steps, hlists, hrelays⟩ := RelayedCall.finished h
  have hledger : Ledger table after t.reservations := (ledger_start table world).steps steps
  have haccounts := hrelays.accounts
  have hnext : ∀ a, ∃ first, a ∈ call.relayer :: call.senders →
      firstNonce table after.world.exchanges a = some first ∧
      (∃ cached, after.table.find? a = some cached ∧
        cached.toNat = first.toNat + (call.relayer :: call.senders).count a) ∧
      noncesOf a t.reservations
        = List.range' first.toNat ((call.relayer :: call.senders).count a) := by
    intro a
    by_cases ha : a ∈ call.relayer :: call.senders
    · obtain ⟨first, cached, hfirst, hfind, hcached, hnonces⟩ := hledger.account (haccounts ▸ ha)
      rw [haccounts] at hcached hnonces
      exact ⟨first, fun _ => ⟨hfirst, ⟨cached, hfind, hcached⟩, hnonces⟩⟩
    · exact ⟨0, fun hmem => absurd hmem ha⟩
  choose next hnext using hnext
  -- the envelope stands first among what is handed out, and what is inside it follows in order
  have hplace : ∀ {j a n}, t.reservations[j]? = some (a, n) → a ∈ call.relayer :: call.senders →
      n.toNat = (next a).toNat + ((call.relayer :: call.senders).take j).count a := by
    intro j a n hj ha
    rw [← haccounts, ← List.map_take]
    exact nonce_of_place (hnext a ha).2.2 hj
  refine ⟨next, fun a ha => (hnext a ha).1, hrelays.sender, ?_, hrelays.senders,
    hrelays.receivers, fun i hi => ?_, hlists, fun a ha => (hnext a ha).2.1, fun a ha => ?_⟩
  · have hzero : t.reservations[0]? = some (call.relayer, t.nonce) := by
      rw [Signed.reservations, hrelays.sender]
      rfl
    exact UInt64.toNat_inj.1 (hplace hzero List.mem_cons_self)
  · have hsucc : t.reservations[i + 1]? = some (t.carried[i].sender, t.carried[i].nonce) := by
      simp [Signed.reservations, hi]
    have hmem : t.carried[i].sender ∈ call.senders := by
      rw [← hrelays.senders]
      exact List.mem_map_of_mem (List.getElem_mem hi)
    rw [hplace hsucc (List.mem_cons_of_mem _ hmem), List.take_succ_cons, List.count_cons]
    by_cases hsame : t.carried[i].sender = call.relayer
    · rw [if_pos hsame, if_pos (by simpa using hsame.symm)]
      omega
    · rw [if_neg hsame, if_neg (by simpa using Ne.symm hsame)]
      omega
  · refine steps.find?_other fun r hr => ?_
    rintro rfl
    exact ha (haccounts ▸ List.mem_map_of_mem hr)

/-- A relayer that is among the senders, of whom another one comes twice. -/
theorem relayed_nonces_relayer_among_senders :
    let account (b : UInt8) := Account.ofSigner (Signer.blank b)
    let call := RelayedCall.movesV3 (account 2) [account 3, account 2, account 3]
      [Address.zero, Address.zero, Address.tokenSystem] 5
    ∃ t after,
      Run.runFrom (call.perform Composer.small Simulation.host.recorded) ⟨{}, ⟨{}, []⟩⟩
        = (.ok t, after) ∧
      ∃ next : Address → UInt64, call.Numbers {} after next t := by
  intro account call
  have hok : (Run.runFrom (call.perform Composer.small Simulation.host.recorded)
      ⟨{}, ⟨{}, []⟩⟩).1.isOk = true := by decide +kernel
  rcases hrun : Run.runFrom (call.perform Composer.small Simulation.host.recorded)
    ⟨{}, ⟨{}, []⟩⟩ with ⟨r, after⟩
  rw [hrun] at hok
  cases r with
  | error e => simp [Except.isOk, Except.toBool] at hok
  | ok t => exact ⟨t, after, rfl, relayed_nonces _ _ _ _ _ hrun⟩

end ShardClient
