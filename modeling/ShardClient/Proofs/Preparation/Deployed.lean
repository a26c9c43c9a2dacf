/-
Contracts are deployed just where their deployment is accepted.

Which deployments were accepted is found out by comparing whole transactions with those that were
kept, and not by their places in the batch.  It comes to the same: the deployments have different
senders, because these are at home in different shards, so no transaction of the batch equals
another.  And a contract is at home where its deployer is, so the contracts that are returned
belong to the shards whose deployments were accepted, in the same order, and differ from each
other.

It does not come to this if the code cannot be read, or if a deployer is left without a nonce.  These
are the only reasons on this side; all else is up to the network.
-/
import ShardClient.Proofs.Composer.Supplying
import ShardClient.Proofs.Preparation.Stages
import ShardClient.Proofs.Sharding.Contracts
import ShardClient.Proofs.Submission.Completing

namespace ShardClient

/-! ### Items by place -/

/-- The items at the places that have a hash. -/
def keptAt {α : Type} (items : List α) (hashes : List (Option String)) : List α :=
  (items.zip hashes).filterMap fun p => p.2.map fun _ => p.1

section keptAt

variable {α β : Type}

theorem keptAt_cons_none (a : α) (items : List α) (hashes : List (Option String)) :
    keptAt (a :: items) (none :: hashes) = keptAt items hashes := rfl

theorem keptAt_cons_some (a : α) (items : List α) (hash : String)
    (hashes : List (Option String)) :
    keptAt (a :: items) (some hash :: hashes) = a :: keptAt items hashes := rfl

theorem map_keptAt (f : α → β) (items : List α) (hashes : List (Option String)) :
    (keptAt items hashes).map f = keptAt (items.map f) hashes := by
  unfold keptAt
  rw [List.zip_map_left, List.map_filterMap, List.filterMap_map]
  refine List.filterMap_congr fun p _ => ?_
  obtain ⟨a, _ | hash⟩ := p <;> rfl

theorem keptAt_sublist (items : List α) (hashes : List (Option String)) :
    (keptAt items hashes).Sublist items := by
  induction items generalizing hashes with
  | nil => exact .slnil
  | cons a items ih =>
    match hashes with
    | [] => exact List.nil_sublist _
    | none :: hashes => exact (ih hashes).cons a
    | some hash :: hashes => exact (ih hashes).cons_cons a

/-- What is kept of a batch, searched for a transaction of it. -/
theorem any_accepted_eq_false {ts : List Signed} {t : Signed} (h : t ∉ ts)
    (hashes : List (Option String)) :
    ((ts.zip hashes).filterMap acceptedOf).any (·.transaction == t) = false := by
  rw [List.any_eq_false]
  rintro a ha heq
  obtain ⟨p, hp, hkept⟩ := List.mem_filterMap.1 ha
  obtain rfl := acceptedOf_eq_some.1 hkept
  exact h (eq_of_beq heq ▸ (List.of_mem_zip hp).1)

/-- **Found by value, found by place**: where no transaction of a batch equals another, those that
equal one that was kept are those at the places that have a hash. -/
theorem filter_accepted {ds : List (Signed × β)} {hashes : List (Option String)}
    (haligned : hashes.length = ds.length) (hnodup : (ds.map (·.1)).Nodup) :
    (ds.filter fun d =>
      (((ds.map (·.1)).zip hashes).filterMap acceptedOf).any (·.transaction == d.1))
      = keptAt ds hashes := by
  induction ds generalizing hashes with
  | nil => rfl
  | cons d ds ih =>
    obtain ⟨hash?, hashes, rfl⟩ := List.exists_cons_of_length_eq_add_one haligned
    rw [List.map_cons, List.nodup_cons] at hnodup
    have hrest := ih (Nat.succ.inj haligned) hnodup.2
    have hself := any_accepted_eq_false hnodup.1 hashes
    cases hash? with
    | none =>
      rw [keptAt_cons_none, ← hrest]
      exact List.filter_cons_of_neg (by simpa [acceptedOf] using hself)
    | some hash =>
      have hother : ∀ e ∈ ds, (d.1 == e.1) = false := by
        rintro e he
        rw [beq_eq_false_iff_ne]
        exact fun heq => hnodup.1 (heq ▸ List.mem_map_of_mem he)
      rw [keptAt_cons_some, ← hrest, List.filter_cons_of_pos (by simp [acceptedOf])]
      congr 1
      refine List.filter_congr fun e he => ?_
      simp [acceptedOf, hother e he]

end keptAt

/-! ### Deployments and their contracts -/

/-- The transaction deploys the code from the first user of the shard, in the order of derivation,
and the address is that of the contract which it creates: a contract at home in the shard. -/
def DeploysIn (c : Composer) (code : Bytes) (shard : ShardId) (d : Signed × Address) : Prop :=
  ∃ deployer, c.registry.users.find? (fun user => c.registry.sharding.home user.address = shard)
      = some deployer ∧
    d.1.sender = deployer.address ∧
    (Draft.deployment c.fees deployer.address code Composer.contractGas Composer.initialValue 0
      {}).Becomes d.1 ∧
    d.2 = Sharding.contractAddress deployer.address d.1.nonce ∧
    d.2.isContract = true ∧ c.registry.sharding.home d.2 = shard

theorem DeploysIn.home_sender {c : Composer} {code : Bytes} {shard : ShardId}
    {d : Signed × Address} (h : DeploysIn c code shard d) :
    c.registry.sharding.home d.1.sender = shard := by
  obtain ⟨deployer, hfind, hsender, -⟩ := h
  rw [hsender]
  simpa using List.find?_some hfind

theorem DeploysIn.home_contract {c : Composer} {code : Bytes} {shard : ShardId}
    {d : Signed × Address} (h : DeploysIn c code shard d) :
    c.registry.sharding.home d.2 = shard := by
  obtain ⟨_, _, _, _, _, _, hhome⟩ := h
  exact hhome

section

variable {c : Composer} {code : Bytes} {shards : List ShardId} {ds : List (Signed × Address)}

/-- Deployments in different shards differ, for their senders do. -/
theorem nodup_of_deploysIn (h : List.Forall₂ (DeploysIn c code) shards ds)
    (hnodup : shards.Nodup) : (ds.map (·.1)).Nodup := by
  have hsenders : (ds.map (·.1)).map (fun t => c.registry.sharding.home t.sender) = shards := by
    rw [List.map_map]
    exact map_eq_of_forall₂ h fun _ _ h => h.home_sender
  exact List.Nodup.of_map _ (hsenders ▸ hnodup)

/-- The contracts that are kept are at home in the shards that are kept. -/
theorem map_home_keptAt (h : List.Forall₂ (DeploysIn c code) shards ds)
    (hashes : List (Option String)) :
    (keptAt (ds.map (·.2)) hashes).map c.registry.sharding.home = keptAt shards hashes := by
  rw [map_keptAt, List.map_map]
  exact congrArg (keptAt · hashes) (map_eq_of_forall₂ h fun _ _ h => h.home_contract)

end

namespace Preparation

variable {σ : Type}

/-! ### Sending and waiting -/

/-- The network answers a batch place by place, and completes all that it accepts of it. -/
structure Served (host : Host (StateM σ)) (courier : Courier) (batch : List Signed)
    (s : Moment (Recorded σ)) (hashes : List (Option String)) : Prop where
  aligned : hashes.length = batch.length
  answered : ((host.network.submitBatch batch).run s.world.world).1 = .ok hashes
  completed : ∃ ready : σ → Prop, ready ((host.network.submitBatch batch).run s.world.world).2 ∧
    host.Completes courier.patience (hashes.filterMap id) ready

theorem Served.sendAndAwait {host : Host (StateM σ)} {courier : Courier} {batch : List Signed}
    {s : Moment (Recorded σ)} {hashes : List (Option String)}
    (h : Served host courier batch s hashes) : ∃ last,
      Run.runFrom (sendAndAwait courier host.recorded batch) s
        = (.ok ((batch.zip hashes).filterMap acceptedOf), last) := by
  obtain ⟨-, hanswered, ready, hready, hcompletes⟩ := h
  have hsend := courier.run_sendBatch_recorded host batch s
  rcases hsubmit : (host.network.submitBatch batch).run s.world.world with ⟨answer, world⟩
  rw [hsubmit] at hanswered hready hsend
  obtain rfl : answer = .ok hashes := hanswered
  have haccepted : ∀ a ∈ (batch.zip hashes).filterMap acceptedOf, a.hash ∈ hashes.filterMap id := by
    intro a ha
    obtain ⟨p, hp, hkept⟩ := List.mem_filterMap.1 ha
    obtain rfl := acceptedOf_eq_some.1 hkept
    exact List.mem_filterMap.2 ⟨some a.hash, (List.of_mem_zip hp).2, rfl⟩
  have hrecorded := hcompletes.recorded
  -- What is logged in between leaves the network ready.
  obtain ⟨outcomes, last, hawait⟩ := hrecorded.awaitAll haccepted
    (hrecorded.logged (s := ⟨s.table, ⟨world, _⟩⟩) _ hready)
  refine ⟨last, ?_⟩
  unfold Preparation.sendAndAwait
  rw [Run.runFrom_bind_ok hsend, discard_eq, map_eq_pure_bind, bind_assoc,
    Run.runFrom_bind_ok hawait]
  rfl

/-! ### Deploying in every shard -/

/-- If deployments in different shards are served, then the contracts of those that are accepted are
returned. -/
theorem Served.deployContracts {host : Host (StateM σ)} {c : Composer} {courier : Courier}
    {code : Bytes} {shards : List ShardId} {ds : List (Signed × Address)}
    {hashes : List (Option String)} {s after : Moment (Recorded σ)}
    (h : Served host courier (ds.map (·.1)) after hashes)
    (hbuild : Run.runFrom (c.adderDeployments host.recorded) s = (.ok ds, after))
    (hall : List.Forall₂ (DeploysIn c code) shards ds) (hnodup : shards.Nodup) :
    let contracts := keptAt (ds.map (·.2)) hashes
    (Run.runFrom (deployContracts c courier host.recorded) s).1 = .ok contracts ∧
      contracts.map c.registry.sharding.home = keptAt shards hashes ∧ contracts.Nodup := by
  intro contracts
  obtain ⟨last, hsent⟩ := h.sendAndAwait
  have haligned : hashes.length = ds.length := h.aligned.trans (List.length_map _)
  have hrun : Run.runFrom (Preparation.deployContracts c courier host.recorded) s = (.ok _, last) :=
    (Run.runFrom_bind_ok hbuild).trans (Run.runFrom_bind_ok hsent)
  have hhomes := map_home_keptAt hall hashes
  refine ⟨?_, hhomes, List.Nodup.of_map _ (hhomes ▸ hnodup.sublist (keptAt_sublist _ _))⟩
  rw [hrun, filter_accepted haligned (nodup_of_deploysIn hall hnodup), map_keptAt]

end Preparation

end ShardClient
