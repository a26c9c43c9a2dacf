/-
What the scenarios of the battery build.

A scenario looks its accounts up in the registry and then calls one builder.  A lookup hands
nothing out and asks nothing, so the scenario hands out what its builder does: exactly the nonces
that the transaction uses, and nothing at all if it is refused.  This holds of each scenario of
the battery, for any registry, with or without a currency.
-/
import ShardClient.Battery
import ShardClient.Proofs.Composer.Relays

namespace ShardClient

/-- The scenario builds one transaction, and hands out the nonces that this uses. -/
def Scenario.Sound {σ : Type} (sc : Scenario (StateM (Recorded σ))) : Prop :=
  Books sc.build (fun rs t => rs = t.reservations) Refuses

namespace Battery

variable {σ α β : Type}

/-! ### Lookups -/

/-- A run that looks things up and may be refused, but hands nothing out. -/
def Lookup (x : Run (StateM (Recorded σ)) α) : Prop :=
  Books x (fun rs _ => rs = [] ∧ True) Refuses

theorem lookup_ofExcept (found : Except NoEntry α) :
    Lookup (Run.ofExcept .lookup found : Run (StateM (Recorded σ)) α) := by
  have hfound : Books (Run.ofExcept .lookup found : Run (StateM (Recorded σ)) α)
      (fun rs a => rs = [] ∧ found = .ok a) Refuses := books_ofExcept fun _ => trivial
  exact hfound.mono (fun _ _ h => ⟨h.1, trivial⟩) fun _ _ h => h

theorem lookup_user (c : Composer) (shard : ShardId) (index : Nat) :
    Lookup (user c shard index : Run (StateM (Recorded σ)) Account) := lookup_ofExcept _

theorem lookup_users (c : Composer) (shard : ShardId) (start stop : Nat) :
    Lookup (users c shard start stop : Run (StateM (Recorded σ)) (List Account)) :=
  lookup_ofExcept _

theorem lookup_contract (c : Composer) (shard : ShardId) (index : Nat) :
    Lookup (contract c shard index : Run (StateM (Recorded σ)) Address) := lookup_ofExcept _

/-- What follows a lookup decides what is handed out. -/
theorem Lookup.then {x : Run (StateM (Recorded σ)) α} {f : α → Run (StateM (Recorded σ)) β}
    {done : List Reservation → β → Prop} (h : Lookup x) (hf : ∀ a, Books (f a) done Refuses) :
    Books (x >>= f) done Refuses :=
  h.after fun a _ => hf a

theorem lookup_firstThree (c : Composer) :
    Lookup (firstThree c : Run (StateM (Recorded σ)) (Account × Account × Address)) := by
  unfold firstThree
  refine (lookup_user c 0 0).then fun relayer => ?_
  refine (lookup_user c 0 1).then fun sender => ?_
  refine (lookup_user c 0 2).then fun receiver => ?_
  exact books_pure ⟨rfl, trivial⟩

/-! ### Scenarios -/

variable (c : Composer) (host : Host (StateM σ))

theorem sound_moveScenario (title : String) (sender receiver : ShardId × Nat) :
    (moveScenario c host.recorded title sender receiver).Sound :=
  (lookup_user c _ _).then fun sender => (lookup_user c _ _).then fun receiver =>
    Composer.books_overpaid host sender receiver.address _

theorem sound_overdrawScenario (title : String) (sender receiver : ShardId × Nat) :
    (overdrawScenario c host.recorded title sender receiver).Sound :=
  (lookup_user c _ _).then fun sender => (lookup_user c _ _).then fun receiver =>
    Composer.books_overpaid host sender receiver.address _

theorem sound_payContractScenario (title : String) (sender : ShardId × Nat) (shard : ShardId) :
    (payContractScenario c host.recorded title sender shard).Sound :=
  (lookup_user c _ _).then fun sender => (lookup_contract c _ _).then fun receiver =>
    Composer.books_overpaid host sender receiver _

theorem sound_moveBothScenario (title : String) (sender receiver : ShardId × Nat) :
    (moveBothScenario c host.recorded title sender receiver).Sound :=
  (lookup_user c _ _).then fun sender => (lookup_user c _ _).then fun receiver =>
    Composer.books_moveBoth host sender receiver.address

theorem sound_payBothScenario (title : String) (sender : ShardId × Nat) (shard : ShardId) :
    (payBothScenario c host.recorded title sender shard).Sound :=
  (lookup_user c _ _).then fun sender => (lookup_contract c _ _).then fun receiver =>
    Composer.books_moveBoth host sender receiver

theorem sound_callRefusedScenario (title : String) (shard : ShardId) :
    (callRefusedScenario c host.recorded title shard).Sound :=
  (lookup_user c _ _).then fun sender => (lookup_contract c _ _).then fun receiver =>
    Composer.books_callRefused host sender receiver _

/-- A relayed transaction uses what its builder hands out. -/
theorem books_relayed (call : RelayedCall) :
    Books (call.perform c host.recorded) (fun rs t => rs = t.reservations) Refuses :=
  (call.books c host).mono (fun _ _ h => h.1.reservations) fun _ _ h => h

theorem sound_relayedMovesScenario (title : String) (shard : ShardId) (amount : Amount) :
    (relayedMovesScenario c host.recorded title shard amount).Sound := by
  refine (lookup_user c 0 0).then fun relayer => ?_
  refine (lookup_users c 0 1 3).then fun senders => ?_
  refine (lookup_users c shard 3 5).then fun receivers => ?_
  exact books_relayed c host (.movesV3 relayer senders (receivers.map Account.address) amount)

theorem sound_transfers : ∀ sc ∈ transfers c host.recorded, sc.Sound := by
  unfold transfers
  simp only [List.forall_mem_cons]
  exact ⟨sound_moveScenario c host _ _ _, sound_moveScenario c host _ _ _,
    sound_overdrawScenario c host _ _ _, sound_overdrawScenario c host _ _ _,
    sound_payContractScenario c host _ _ _, sound_payContractScenario c host _ _ _,
    sound_moveBothScenario c host _ _ _, sound_moveBothScenario c host _ _ _,
    sound_payBothScenario c host _ _ _, sound_payBothScenario c host _ _ _, by simp⟩

theorem sound_relayed : ∀ sc ∈ relayed c host.recorded, sc.Sound := by
  unfold relayed
  simp only [List.forall_mem_cons]
  refine ⟨?_, ?_, ?_, sound_relayedMovesScenario c host _ _ _,
    sound_relayedMovesScenario c host _ _ _, sound_relayedMovesScenario c host _ _ _,
    sound_relayedMovesScenario c host _ _ _, ?_, ?_, by simp⟩
  · refine (lookup_firstThree c).then ?_
    rintro ⟨relayer, sender, receiver⟩
    exact books_relayed c host (.moveV1 relayer sender receiver _)
  · refine (lookup_firstThree c).then ?_
    rintro ⟨relayer, sender, receiver⟩
    exact books_relayed c host (.tokensV1 relayer sender receiver _)
  · refine (lookup_firstThree c).then ?_
    rintro ⟨relayer, sender, receiver⟩
    exact books_relayed c host (.moveV2 relayer sender receiver _)
  · refine (lookup_user c 0 0).then fun relayer => ?_
    refine (lookup_users c 0 5 6).then fun senders => ?_
    refine (lookup_contract c 0 0).then fun receiver => ?_
    exact books_relayed c host (.movesV3 relayer senders [receiver] _)
  · refine (lookup_user c 1 0).then fun relayer => ?_
    refine (lookup_user c 1 9).then fun sender => ?_
    exact books_relayed c host (.moveV1 relayer sender Address.tokenSystem _)

theorem sound_contracts : ∀ sc ∈ contracts c host.recorded, sc.Sound := by
  unfold contracts
  simp only [List.forall_mem_cons]
  refine ⟨?_, sound_callRefusedScenario c host _ _, sound_callRefusedScenario c host _ _, ?_, ?_, ?_,
    by simp⟩
  · exact (lookup_user c 0 0).then fun sender => Composer.books_deploy host sender _
  · exact (lookup_user c 0 0).then fun sender => Composer.books_deployRefused host sender _
  · refine (lookup_user c 0 0).then fun sender => ?_
    refine (lookup_contract c 0 0).then fun receiver => ?_
    exact Composer.books_claimRewards host sender receiver
  · refine (lookup_user c 0 0).then fun relayer => ?_
    refine (lookup_user c 0 1).then fun sender => ?_
    refine (lookup_contract c 0 0).then fun receiver => ?_
    exact books_relayed c host (.refusedV1 relayer sender receiver _)

/-- **Every scenario of the battery is sound.** -/
theorem sound_scenarios : ∀ sc ∈ scenarios c host.recorded, sc.Sound := by
  unfold scenarios
  rw [List.forall_mem_append, List.forall_mem_append]
  exact ⟨⟨sound_transfers c host, sound_relayed c host⟩, sound_contracts c host⟩

end Battery

end ShardClient
