/-
What commands do on a workbench is blameless.

Of all that a command does on a workbench only the moving of tokens can find the configuration
wanting, namely if it names no currency.  Preparing a network moves tokens only if it is asked to
give them to the users; issuing the token does not need its name.  The battery moves them.
-/
import ShardClient.CommandLine
import ShardClient.Proofs.Preparation.Stages
import ShardClient.Proofs.Run.Blameless

namespace ShardClient

variable {σ : Type}

/-! ### Preparing a network -/

namespace Preparation

variable {c : Composer} (courier : Courier) (host : Host (StateM σ))

theorem blameless_handled {β κ α : Type} {build : Run (StateM σ) β} {hand : β → Run (StateM σ) κ}
    {accepted : β → κ → List Accepted} {conclude : β → κ → List Outcome → Run (StateM σ) α}
    (hbuild : Blameless build) (hhand : ∀ b, Blameless (hand b))
    (hconclude : ∀ b k outcomes, Blameless (conclude b k outcomes)) :
    Blameless (handled courier host build hand accepted conclude) := by
  apply hbuild.bind
  intro b
  apply (hhand b).bind
  intro k
  exact (courier.blameless_awaitAll host _).bind fun outcomes => hconclude b k outcomes

theorem blameless_issued (hash : String) (outcomes : List Outcome) :
    Blameless (issued hash outcomes : Run (StateM σ) String) := by
  unfold issued
  split
  · exact blameless_throw nofun
  · split
    · exact blameless_throw nofun
    · exact blameless_pure _

theorem blameless_logContracts (contracts : List Address) :
    Blameless (logContracts host contracts) := by
  induction contracts with
  | nil => exact blameless_pure ()
  | cons contract rest ih => exact (blameless_act _).bind fun _ => ih

theorem blameless_stage {stage : Stage} (h : stage = .tokenAirdrops → c.currency ≠ none) :
    Blameless (stage.perform c courier host) := by
  apply (blameless_act _).bind
  intro _
  -- Whoever it is that nonces are reserved for, there is nothing to blame.
  have blameless : ∀ {α : Type} {x : Run (StateM σ) α},
      Made host (fun _ => True) False x → Blameless x := fun hx => hx.blameless id
  cases stage with
  | nativeAirdrops =>
    show Blameless (airdropNative c courier host)
    rw [airdropNative_eq]
    refine blameless_handled courier host ?_ (courier.blameless_sendBatch host) ?_
    · exact blameless (Composer.made_nativeAirdrops fun _ _ => trivial)
    · exact fun _ _ _ => blameless_pure ()
  | issuance =>
    rw [issue_eq]
    refine blameless_handled courier host ?_ (courier.blameless_send host) ?_
    · exact blameless (Composer.made_issuance trivial tokenName)
    · exact fun _ hash outcomes => (blameless_issued hash outcomes).bind fun _ => blameless_act _
  | tokenAirdrops =>
    show Blameless (airdropTokens c courier host)
    rw [airdropTokens_eq]
    refine blameless_handled courier host ?_ (courier.blameless_sendBatch host) ?_
    · exact blameless (Composer.made_tokenAirdrops (fun _ _ => trivial) (h rfl))
    · exact fun _ _ _ => blameless_pure ()
  | deployments =>
    rw [deployContracts_eq]
    refine blameless_handled courier host ?_ (fun _ => courier.blameless_sendBatch host _) ?_
    · exact blameless (Composer.made_adderDeployments fun _ _ => trivial)
    · exact fun _ _ _ => blameless_logContracts host _

/-- Preparing a network blames nothing, if there is a currency or no tokens are given away. -/
theorem blameless_run {options : Options}
    (h : options.tokenAirdrops = true → c.currency ≠ none) :
    Blameless (run c courier host options) := by
  have hplan : .tokenAirdrops ∈ plan options → options.tokenAirdrops = true := by
    rcases options with ⟨airdrops, deployments⟩
    cases airdrops <;> cases deployments <;> simp [plan]
  rw [run_eq]
  refine Blameless.bind (blameless_mapM fun stage hstage => ?_) fun _ => blameless_pure ()
  refine blameless_stage courier host fun htokens => h (hplan ?_)
  rw [← htokens]
  exact hstage

end Preparation

/-! ### The battery -/

/-- The scenario is made of lookups, and of reservations for whomever it finds; of the
configuration it needs a currency at most. -/
def Scenario.Frugal (c : Composer) (host : Host (StateM σ)) (sc : Scenario (StateM σ)) : Prop :=
  Made host (fun _ => True) (c.currency = none) sc.build

namespace Battery

variable (c : Composer) (host : Host (StateM σ))

theorem made_user (shard : ShardId) (index : Nat) :
    Made host (fun _ => True) (c.currency = none) (user c shard index) :=
  made_ofExcept nofun _

theorem made_users (shard : ShardId) (start stop : Nat) :
    Made host (fun _ => True) (c.currency = none) (users c shard start stop) :=
  made_ofExcept nofun _

theorem made_contract (shard : ShardId) (index : Nat) :
    Made host (fun _ => True) (c.currency = none) (contract c shard index) :=
  made_ofExcept nofun _

theorem made_firstThree : Made host (fun _ => True) (c.currency = none) (firstThree c) := by
  apply (made_user c host 0 0).bind
  intro relayer
  apply (made_user c host 0 1).bind
  intro sender
  exact (made_user c host 0 2).bind fun receiver => .pure _

theorem made_relayed (call : RelayedCall) :
    Made host (fun _ => True) (c.currency = none) (call.perform c host) :=
  (call.made c host).mono (fun _ _ => trivial) id

theorem frugal_moveScenario (title : String) (sender receiver : ShardId × Nat) :
    (moveScenario c host title sender receiver).Frugal c host := by
  apply (made_user c host _ _).bind
  intro sender
  apply (made_user c host _ _).bind
  intro receiver
  exact Composer.made_overpaid trivial receiver.address _

theorem frugal_overdrawScenario (title : String) (sender receiver : ShardId × Nat) :
    (overdrawScenario c host title sender receiver).Frugal c host := by
  apply (made_user c host _ _).bind
  intro sender
  apply (made_user c host _ _).bind
  intro receiver
  exact Composer.made_overpaid trivial receiver.address _

theorem frugal_payContractScenario (title : String) (sender : ShardId × Nat) (shard : ShardId) :
    (payContractScenario c host title sender shard).Frugal c host := by
  apply (made_user c host _ _).bind
  intro sender
  apply (made_contract c host _ _).bind
  intro receiver
  exact Composer.made_overpaid trivial receiver _

theorem frugal_moveBothScenario (title : String) (sender receiver : ShardId × Nat) :
    (moveBothScenario c host title sender receiver).Frugal c host := by
  apply (made_user c host _ _).bind
  intro sender
  apply (made_user c host _ _).bind
  intro receiver
  exact Composer.made_moveBoth trivial receiver.address id

theorem frugal_payBothScenario (title : String) (sender : ShardId × Nat) (shard : ShardId) :
    (payBothScenario c host title sender shard).Frugal c host := by
  apply (made_user c host _ _).bind
  intro sender
  apply (made_contract c host _ _).bind
  intro receiver
  exact Composer.made_moveBoth trivial receiver id

theorem frugal_callRefusedScenario (title : String) (shard : ShardId) :
    (callRefusedScenario c host title shard).Frugal c host := by
  apply (made_user c host _ _).bind
  intro sender
  apply (made_contract c host _ _).bind
  intro receiver
  exact Composer.made_callRefused trivial receiver _

theorem frugal_relayedMovesScenario (title : String) (shard : ShardId) (amount : Amount) :
    (relayedMovesScenario c host title shard amount).Frugal c host := by
  apply (made_user c host 0 0).bind
  intro relayer
  apply (made_users c host 0 1 3).bind
  intro senders
  apply (made_users c host shard 3 5).bind
  intro receivers
  exact made_relayed c host (.movesV3 relayer senders (receivers.map Account.address) amount)

theorem frugal_transfers : ∀ sc ∈ transfers c host, sc.Frugal c host := by
  unfold transfers
  simp only [List.forall_mem_cons]
  exact ⟨frugal_moveScenario c host _ _ _, frugal_moveScenario c host _ _ _,
    frugal_overdrawScenario c host _ _ _, frugal_overdrawScenario c host _ _ _,
    frugal_payContractScenario c host _ _ _, frugal_payContractScenario c host _ _ _,
    frugal_moveBothScenario c host _ _ _, frugal_moveBothScenario c host _ _ _,
    frugal_payBothScenario c host _ _ _, frugal_payBothScenario c host _ _ _, by simp⟩

theorem frugal_relayed : ∀ sc ∈ relayed c host, sc.Frugal c host := by
  unfold relayed
  simp only [List.forall_mem_cons]
  refine ⟨?_, ?_, ?_, frugal_relayedMovesScenario c host _ _ _,
    frugal_relayedMovesScenario c host _ _ _, frugal_relayedMovesScenario c host _ _ _,
    frugal_relayedMovesScenario c host _ _ _, ?_, ?_, by simp⟩
  · apply (made_firstThree c host).bind
    rintro ⟨relayer, sender, receiver⟩
    exact made_relayed c host (.moveV1 relayer sender receiver _)
  · apply (made_firstThree c host).bind
    rintro ⟨relayer, sender, receiver⟩
    exact made_relayed c host (.tokensV1 relayer sender receiver _)
  · apply (made_firstThree c host).bind
    rintro ⟨relayer, sender, receiver⟩
    exact made_relayed c host (.moveV2 relayer sender receiver _)
  · apply (made_user c host 0 0).bind
    intro relayer
    apply (made_users c host 0 5 6).bind
    intro senders
    apply (made_contract c host 0 0).bind
    intro receiver
    exact made_relayed c host (.movesV3 relayer senders [receiver] _)
  · apply (made_user c host 1 0).bind
    intro relayer
    apply (made_user c host 1 9).bind
    intro sender
    exact made_relayed c host (.moveV1 relayer sender Address.tokenSystem _)

theorem frugal_contracts : ∀ sc ∈ contracts c host, sc.Frugal c host := by
  unfold contracts
  simp only [List.forall_mem_cons]
  refine ⟨?_, frugal_callRefusedScenario c host _ _, frugal_callRefusedScenario c host _ _, ?_, ?_,
    ?_, by simp⟩
  · exact (made_user c host 0 0).bind fun _ => Composer.made_deploy trivial _
  · exact (made_user c host 0 0).bind fun _ => Composer.made_deployRefused trivial _
  · apply (made_user c host 0 0).bind
    intro sender
    exact (made_contract c host 0 0).bind fun receiver => Composer.made_claimRewards trivial receiver
  · apply (made_user c host 0 0).bind
    intro relayer
    apply (made_user c host 0 1).bind
    intro sender
    apply (made_contract c host 0 0).bind
    intro receiver
    exact made_relayed c host (.refusedV1 relayer sender receiver _)

theorem frugal_scenarios : ∀ sc ∈ scenarios c host, sc.Frugal c host := by
  unfold scenarios
  rw [List.forall_mem_append, List.forall_mem_append]
  exact ⟨⟨frugal_transfers c host, frugal_relayed c host⟩, frugal_contracts c host⟩

variable {c}

/-- The battery blames nothing, if there is a currency. -/
theorem blameless_run (courier : Courier) (h : c.currency ≠ none) (newer : Bool) :
    Blameless (run c courier host newer) := by
  refine Blameless.bind (blameless_mapM fun sc hsc => ?_) fun hashes => ?_
  · have hfrugal := frugal_scenarios c host sc (List.mem_filter.1 hsc).1
    apply (blameless_act _).bind
    intro _
    apply (hfrugal.blameless h).bind
    intro t
    exact courier.blameless_send host t
  · exact (blameless_act _).bind fun _ => blameless_pure hashes

end Battery

namespace CommandLine

/-- **What a command does on a workbench is blameless**, if there is a currency wherever one is
needed. -/
theorem blameless_perform (host : Host (StateM σ)) {w : Workbench} {action : Action}
    (h : action.needsCurrency = true → w.composer.currency ≠ none) :
    Blameless (perform host w action) := by
  cases action with
  | setup options => exact Preparation.blameless_run w.courier host h
  | run newer =>
    exact (Battery.blameless_run host w.courier (h rfl) newer).bind fun _ => blameless_act _

end CommandLine

end ShardClient
