/-
Airdrops, counted.

All transactions of an airdrop are from the sponsor, so each of them reserves what the one before it
has left.  The network is asked for the first one at most.  What comes of the whole is settled by
where that first nonce is and how many users there are: if the numbers reach, every user is sent
something; and if they do not, the transactions that have been made by then are dropped with their
nonces, and the sponsor is used up.
-/
import ShardClient.Proofs.Composer.UsedUp
import ShardClient.Simulation.Network

namespace ShardClient

variable {σ : Type}

namespace Composer

variable {c : Composer} {host : Host (StateM σ)} {a : Address} {d : Draft} {ds : List Draft}
  {s : Moment σ} {n : UInt64}

/-! ### One transaction -/

/-- A draft of a managed account is finished with the nonce that is found, unless that is the
greatest one. -/
inductive Finished (d : Draft) (n : UInt64) :
    Except RunError Signed → Option UInt64 → Prop
  | numbered {t : Signed} (h : n ≠ lastNonce) (becomes : d.Becomes t) (nonce : t.nonce = n) :
    Finished d n (.ok t) (some (n + 1))
  | exhausted (h : n = lastNonce) :
    Finished d n (.error (.noncesExhausted d.sender)) (some lastNonce)

theorem finished_finish (managed : c.Managed d.sender) (found : upcoming host d.sender s = .ok n) :
    Finished d n (Run.runFrom (c.finish host d) s).1
      ((Run.runFrom (c.finish host d) s).2.table.find? d.sender) := by
  obtain ⟨numbered, hnumbered, hfinish⟩ := finish_managed host managed
  obtain ⟨hresult, htable⟩ := reserveNonce_of_ok found
  have hnext := htable d.sender
  rw [if_pos rfl] at hnext
  rw [hfinish]
  rcases hreserve : Run.runFrom (reserveNonce host d.sender) s with ⟨r, s₁⟩
  rw [hreserve, reserveNext] at hresult hnext
  by_cases hn : n = lastNonce
  · rw [if_pos hn] at hresult hnext
    obtain rfl : r = .error (.noncesExhausted d.sender) := hresult
    rw [Run.runFrom_bind_error hreserve, hnext, hn]
    exact .exhausted rfl
  · rw [if_neg hn] at hresult hnext
    obtain rfl : r = .ok n := hresult
    rw [Run.runFrom_bind_ok hreserve, Run.runFrom_pure, hnext]
    exact .numbered hn (hnumbered n).2 (hnumbered n).1

/-! ### One transaction after another -/

/-- How drafts of one account are finished, if its next nonce is `n`: all of them, with consecutive
nonces, or none because there are not as many. -/
inductive Counted (a : Address) (n : Nat) (ds : List Draft) :
    Except RunError (List Signed) → Option UInt64 → Prop
  | lasting {ts : List Signed} {next : UInt64} (becomes : List.Forall₂ Draft.Becomes ds ts)
    (nonces : ts.map (·.nonce.toNat) = List.range' n ds.length)
    (hnext : next.toNat = n + ds.length) : Counted a n ds (.ok ts) (some next)
  | exhausted (h : lastNonce.toNat < n + ds.length) :
    Counted a n ds (.error (.noncesExhausted a)) (some lastNonce)

/-- If there are nonces for all drafts, then all are finished. -/
theorem Counted.of_le {m : Nat} {r : Except RunError (List Signed)} {next : Option UInt64}
    (h : Counted a m ds r next) (hfits : m + ds.length ≤ lastNonce.toNat) :
    ∃ ts last, r = .ok ts ∧ next = some last ∧ List.Forall₂ Draft.Becomes ds ts ∧
      ts.map (·.nonce.toNat) = List.range' m ds.length ∧ last.toNat = m + ds.length := by
  cases h with
  | lasting becomes nonces hnext => exact ⟨_, _, rfl, rfl, becomes, nonces, hnext⟩
  | exhausted hshort => omega

/-- If not, then none is. -/
theorem Counted.of_lt {m : Nat} {r : Except RunError (List Signed)} {next : Option UInt64}
    (h : Counted a m ds r next) (hshort : lastNonce.toNat < m + ds.length) :
    r = .error (.noncesExhausted a) ∧ next = some lastNonce := by
  cases h with
  | @lasting ts next _ _ hnext =>
    have hle := toNat_le_lastNonce next
    omega
  | exhausted => exact ⟨rfl, rfl⟩

/-- One more draft, in front of others that go on from the next nonce. -/
theorem counted_cons (managed : c.Managed d.sender) (found : upcoming host d.sender s = .ok n)
    (rest : ∀ s₁ : Moment σ, s₁.table.find? d.sender = some (n + 1) →
      Counted d.sender (n + 1).toNat ds (Run.runFrom (ds.mapM (c.finish host)) s₁).1
        ((Run.runFrom (ds.mapM (c.finish host)) s₁).2.table.find? d.sender)) :
    Counted d.sender n.toNat (d :: ds) (Run.runFrom ((d :: ds).mapM (c.finish host)) s).1
      ((Run.runFrom ((d :: ds).mapM (c.finish host)) s).2.table.find? d.sender) := by
  have hfirst := finished_finish managed found
  rw [List.mapM_cons]
  rcases hfinish : Run.runFrom (c.finish host d) s with ⟨r, s₁⟩
  rw [hfinish] at hfirst
  generalize hnext : s₁.table.find? d.sender = next at hfirst
  cases hfirst with
  | exhausted hn =>
    rw [Run.runFrom_bind_error hfinish, hnext]
    refine .exhausted ?_
    rw [hn, List.length_cons]
    omega
  | @numbered t hn becomes nonce =>
    rw [Run.runFrom_bind_ok hfinish]
    have hmore := rest s₁ hnext
    rw [toNat_next hn] at hmore
    rcases hrest : Run.runFrom (ds.mapM (c.finish host)) s₁ with ⟨q, s₂⟩
    rw [hrest] at hmore
    generalize hend : s₂.table.find? d.sender = final at hmore
    cases hmore with
    | exhausted h =>
      rw [Run.runFrom_bind_error hrest, hend]
      refine .exhausted ?_
      rw [List.length_cons]
      omega
    | @lasting ts next hbecomes hnonces hcount =>
      rw [Run.runFrom_bind_ok hrest, Run.runFrom_pure, hend]
      refine .lasting (.cons becomes hbecomes) ?_ ?_
      · rw [List.map_cons, hnonces, nonce, List.length_cons, List.range'_succ]
      · rw [List.length_cons]
        omega

/-- Drafts of an account of which the next nonce is known. -/
theorem counted_of_find? (managed : c.Managed a) (hsender : ∀ d ∈ ds, d.sender = a)
    (known : s.table.find? a = some n) :
    Counted a n.toNat ds (Run.runFrom (ds.mapM (c.finish host)) s).1
      ((Run.runFrom (ds.mapM (c.finish host)) s).2.table.find? a) := by
  induction ds generalizing s n with
  | nil =>
    rw [List.mapM_nil, Run.runFrom_pure, known]
    exact .lasting .nil rfl rfl
  | cons d ds ih =>
    obtain ⟨rfl, hsenders⟩ := List.forall_mem_cons.1 hsender
    exact counted_cons managed (upcoming_of_find? known) fun _ hknown => ih hsenders hknown

/-- Drafts of an account of which the next nonce may have to be asked for; there is at least one
draft, or else nobody would ask. -/
theorem counted_mapM_finish (managed : c.Managed a) (hsender : ∀ d ∈ ds, d.sender = a)
    (hne : ds ≠ []) (found : upcoming host a s = .ok n) :
    Counted a n.toNat ds (Run.runFrom (ds.mapM (c.finish host)) s).1
      ((Run.runFrom (ds.mapM (c.finish host)) s).2.table.find? a) := by
  cases ds with
  | nil => exact absurd rfl hne
  | cons d ds =>
    obtain ⟨rfl, hsenders⟩ := List.forall_mem_cons.1 hsender
    -- behind the first draft the next nonce is in the table, whether it was there before or not
    exact counted_cons managed found fun _ hknown => counted_of_find? managed hsenders hknown

/-- If the next nonce is not found, the first draft is the last one that is looked at. -/
theorem mapM_finish_of_error {fault : NetworkFault} (managed : c.Managed a)
    (hsender : ∀ d ∈ ds, d.sender = a) (hne : ds ≠ []) (found : upcoming host a s = .error fault) :
    ∃ world, Run.runFrom (ds.mapM (c.finish host)) s
      = (.error (.network fault), ⟨s.table, world⟩) := by
  cases ds with
  | nil => exact absurd rfl hne
  | cons d ds =>
    obtain ⟨rfl, -⟩ := List.forall_mem_cons.1 hsender
    obtain ⟨numbered, -, hfinish⟩ := finish_managed host managed
    obtain ⟨world, hreserve⟩ := reserveNonce_of_error found
    refine ⟨world, ?_⟩
    rw [List.mapM_cons, hfinish]
    exact Run.runFrom_bind_error (Run.runFrom_bind_error hreserve)

end Composer

/-! ### Airdrops -/

/-- The call is one that sends something to every user: a native amount, or a token, for which there
has to be a currency. -/
def Call.IsAirdrop (c : Composer) : Call → Prop
  | nativeAirdrops => True
  | tokenAirdrops => c.currency ≠ none
  | _ => False

/-- An airdrop finishes one draft for each user, which goes from the sponsor to the user. -/
theorem Call.IsAirdrop.perform_eq {c : Composer} {call : Call} (h : call.IsAirdrop c)
    (host : Host (StateM σ)) :
    ∃ draft : Account → Draft,
      (∀ user, (draft user).sender = c.registry.sponsor.address ∧
        (draft user).receiver = user.address) ∧
      call.perform c host = (c.registry.users.map draft).mapM (c.finish host) := by
  cases call with
  | nativeAirdrops =>
    refine ⟨fun user => Draft.nativeTransfer c.fees c.registry.sponsor.address user.address
      Composer.nativeGift, fun _ => ⟨rfl, rfl⟩, ?_⟩
    rw [List.mapM_map]
    rfl
  | tokenAirdrops =>
    obtain ⟨identifier, hcurrency⟩ := Option.ne_none_iff_exists'.1 h
    refine ⟨fun user => Draft.tokenTransfer c.fees c.registry.sponsor.address user.address
      [⟨⟨identifier, 0⟩, Composer.tokenGift⟩], fun _ => Composer.tokenTransfer_fungible rfl .., ?_⟩
    rw [List.mapM_map]
    show c.tokenAirdrops host = _
    unfold Composer.tokenAirdrops Composer.token
    rw [hcurrency]
    exact pure_bind ..
  | _ => exact h.elim

/-- One transaction for each user, in order, from the sponsor, with nonces from `n` on. -/
structure Airdrop (sponsor : Address) (users : List Account) (n : Nat) (ts : List Signed) :
    Prop where
  senders : ∀ t ∈ ts, t.sender = sponsor
  receivers : ts.map (·.body.receiver) = users.map (·.address)
  nonces : ts.map (·.nonce.toNat) = List.range' n users.length

/-- What comes of an airdrop to the users, if `found` is what is found of the next nonce of the
sponsor at its beginning. -/
structure AirdropCounts (sponsor : Address) (users : List Account)
    (found : Except NetworkFault UInt64) (s : Moment σ) (r : Except RunError (List Signed))
    (after : Moment σ) : Prop where
  /-- Without users nothing is done, so nothing is asked either. -/
  nobody : users = [] → r = .ok [] ∧ after = s
  /-- If there is a nonce for every user, then all are sent something, and the count goes on behind
  them. -/
  lasting : users ≠ [] → ∀ n, found = .ok n → n.toNat + users.length ≤ lastNonce.toNat →
    ∃ ts next, r = .ok ts ∧ Airdrop sponsor users n.toNat ts ∧
      after.table.find? sponsor = some next ∧ next.toNat = n.toNat + users.length
  /-- If not, then the airdrop fails, and the sponsor is used up. -/
  exhausted : ∀ n, found = .ok n → lastNonce.toNat < n.toNat + users.length →
    r = .error (.noncesExhausted sponsor) ∧ after.table.find? sponsor = some lastNonce
  /-- If the network does not tell the nonce, this is the error, and the table is as before. -/
  unserved : users ≠ [] → ∀ fault, found = .error fault →
    r = .error (.network fault) ∧ after.table = s.table
  /-- The next nonce of any other account is as before. -/
  others : ∀ a, a ≠ sponsor → after.table.find? a = s.table.find? a

/-- Transactions made of drafts for the users are an airdrop. -/
theorem airdrop_of_becomes {sponsor : Address} {users : List Account} {n : Nat} {ts : List Signed}
    {draft : Account → Draft}
    (hdraft : ∀ user, (draft user).sender = sponsor ∧ (draft user).receiver = user.address)
    (hbecomes : List.Forall₂ Draft.Becomes (users.map draft) ts)
    (hnonces : ts.map (·.nonce.toNat) = List.range' n users.length) :
    Airdrop sponsor users n ts := by
  rw [List.forall₂_map_left_iff] at hbecomes
  refine ⟨fun t ht => ?_, ?_, hnonces⟩
  · obtain ⟨user, h⟩ := exists_of_forall₂ hbecomes.flip t ht
    exact h.sender.trans (hdraft user).1
  · have hreceivers : List.Forall₂ (fun address t => t.body.receiver = address)
        (users.map (·.address)) ts := by
      rw [List.forall₂_map_left_iff]
      refine hbecomes.imp fun user t h => ?_
      rw [h.body]
      exact (hdraft user).2
    exact map_eq_of_forall₂ hreceivers fun _ _ h => h

/-- An airdrop reserves nonces of the sponsor only. -/
theorem Call.IsAirdrop.accounts_eq {c : Composer} {call : Call} (h : call.IsAirdrop c) :
    call.accounts c = c.registry.users.map fun _ => c.registry.sponsor.address := by
  cases call with
  | nativeAirdrops | tokenAirdrops => rfl
  | _ => exact h.elim

theorem Call.IsAirdrop.counts {c : Composer} {call : Call} (h : call.IsAirdrop c)
    (host : Host (StateM σ)) (s : Moment σ) :
    AirdropCounts c.registry.sponsor.address c.registry.users
      (upcoming host c.registry.sponsor.address s) s (Run.runFrom (call.perform c host) s).1
      (Run.runFrom (call.perform c host) s).2 := by
  -- of other accounts nothing has to be known but that no nonce is reserved for them
  have hothers : ∀ a, a ≠ c.registry.sponsor.address →
      (Run.runFrom (call.perform c host) s).2.table.find? a = s.table.find? a := by
    intro a ha
    refine (call.made c host).outside ?_ s
    rw [h.accounts_eq, List.mem_map]
    rintro ⟨_, -, rfl⟩
    exact ha rfl
  obtain ⟨draft, hdraft, hperform⟩ := h.perform_eq host
  have hsender : ∀ d ∈ c.registry.users.map draft, d.sender = c.registry.sponsor.address := by
    intro d hd
    obtain ⟨user, -, rfl⟩ := List.mem_map.1 hd
    exact (hdraft user).1
  have hdrafts : c.registry.users ≠ [] → c.registry.users.map draft ≠ [] :=
    fun hne hnil => hne (List.map_eq_nil_iff.1 hnil)
  have managed : c.Managed c.registry.sponsor.address :=
    Registry.exists_account_of_mem List.mem_cons_self
  rw [hperform] at hothers ⊢
  refine ⟨?nobody, ?lasting, ?exhausted, ?unserved, hothers⟩
  case nobody =>
    intro hnil
    rw [hnil, List.map_nil, List.mapM_nil, Run.runFrom_pure]
    exact ⟨rfl, rfl⟩
  case lasting =>
    intro hne n found hfits
    have hcounted := Composer.counted_mapM_finish managed hsender (hdrafts hne) found
    rw [← List.length_map (f := draft)] at hfits
    obtain ⟨ts, next, hts, hnext, hbecomes, hnonces, hcount⟩ := hcounted.of_le hfits
    rw [List.length_map] at hnonces hcount
    exact ⟨ts, next, hts, airdrop_of_becomes hdraft hbecomes hnonces, hnext, hcount⟩
  case exhausted =>
    intro n found hshort
    have hne : c.registry.users ≠ [] := by
      intro hnil
      rw [hnil] at hshort
      exact absurd hshort (Nat.not_lt.2 (toNat_le_lastNonce n))
    have hcounted := Composer.counted_mapM_finish managed hsender (hdrafts hne) found
    rw [← List.length_map (f := draft)] at hshort
    exact hcounted.of_lt hshort
  case unserved =>
    intro hne fault found
    obtain ⟨world, hrun⟩ := Composer.mapM_finish_of_error managed hsender (hdrafts hne) found
    rw [hrun]
    exact ⟨rfl, rfl⟩

/-- **Airdrops are counted.**  If the sponsor has a nonce for every user then each is sent one
transaction, in order and with consecutive nonces; if not, nobody is sent anything and the sponsor
is used up.  And when the sponsor is used up, by this or just so, then every later call that needs a
nonce of the sponsor fails, whatever it is and whatever the network says by then. -/
theorem airdrops_counted (host : Host (StateM σ)) (c : Composer) {call : Call}
    (h : call.IsAirdrop c) (s : Moment (Recorded σ)) :
    let sponsor := c.registry.sponsor.address
    let run := Run.runFrom (call.perform c host.recorded) s
    AirdropCounts sponsor c.registry.users (upcoming host.recorded sponsor s) s run.1 run.2 ∧
      (run.2.table.find? sponsor = some lastNonce → ∀ calls,
        let later := Call.performAll host.recorded calls run.2
        Barred sponsor calls later.1 later.2) := by
  intro sponsor run
  exact ⟨h.counts host.recorded s, fun last calls => Call.barred host calls last⟩

/-- The sponsor is among the two users and has one nonce left, which is lost. -/
theorem airdrops_counted_one_left :
    let c : Composer :=
      { Composer.ofUsers [Signer.blank 1, Signer.blank 2] 3 with currency := some "COIN-123456" }
    let sponsor := c.registry.sponsor.address
    let start : Moment (Recorded Simulation) := ⟨⟨[(sponsor, lastNonce - 1)]⟩, ⟨{}, []⟩⟩
    let run := Run.runFrom (Call.tokenAirdrops.perform c Simulation.host.recorded) start
    Call.tokenAirdrops.IsAirdrop c ∧ sponsor ∈ c.registry.users.map (·.address) ∧
      run.1 = .error (.noncesExhausted sponsor) ∧
      run.2.table.find? sponsor = some lastNonce ∧ ∀ calls,
        let later := Call.performAll Simulation.host.recorded calls run.2
        Barred sponsor calls later.1 later.2 := by
  intro c sponsor start run
  have hcurrency : Call.tokenAirdrops.IsAirdrop c := by simp [Call.IsAirdrop, c]
  have hfound : upcoming Simulation.host.recorded sponsor start = .ok (lastNonce - 1) :=
    upcoming_of_find? (by simp [start, AddressMap.find?])
  obtain ⟨hcounts, hbarred⟩ := airdrops_counted Simulation.host c hcurrency start
  obtain ⟨herror, hlast⟩ := hcounts.exhausted _ hfound (by decide)
  exact ⟨hcurrency, List.mem_cons_self, herror, hlast, hbarred hlast⟩

end ShardClient
