/-
Deployments that stop halfway.

The builder of the deployments looks up the first user of a shard only when those of the shards
before it have been handed their nonces.  So when it comes to a shard without users, all of these
nonces are gone, and the network has been asked for each that was not known.  Only where the code
is missing, or the first shard has no users, does it stop without a trace, as the other builders
do.
-/
import ShardClient.Proofs.Composer.Deploying
import ShardClient.Proofs.Run.Once
import ShardClient.Simulation.Network

namespace ShardClient

variable {σ : Type}

/-- **Where the builder of the deployments stops by itself.**  If the code is missing, nothing is
handed out.  Otherwise it stops at a shard without users, which is named in the error; all shards
before it have users, and just the first user of each has been handed one nonce. -/
theorem deployments_handed_before_stop (host : Host (StateM σ)) (c : Composer)
    {s after : Moment (Recorded σ)} {e : RunError} (hnetwork : ∀ cause, e ≠ .network cause)
    (hnonces : ∀ a, e ≠ .noncesExhausted a)
    (h : Run.runFrom (c.adderDeployments host.recorded) s = (.error e, after)) :
    ((∃ cause, c.files.readCode (FileStore.join c.contractsDir Composer.adderFile) = .error cause ∧
        e = .code cause) ∧ HandedOnce s [] after) ∨
    ∃ k < c.registry.sharding.count.toNat, e = .lookup (.user (UInt32.ofNat k) 0) ∧
      c.registry.usersIn (UInt32.ofNat k) = [] ∧
      ∃ rs, List.Forall₂ (Composer.HandedFirst c) (shardsFrom 0 k) rs ∧
        HandedOnce s rs after := by
  rcases (Composer.books_adderDeployments host).of_error h with
    ⟨rs, steps, ⟨rfl, hcode⟩ | ⟨k, hk, herror, hempty, hhanded⟩⟩ | ⟨rs, s₀, a, steps, last⟩
  · exact .inl ⟨hcode, steps.handedOnce .nil⟩
  · rw [Nat.zero_add] at herror hempty
    have hnodup : (shardsFrom 0 k).Nodup := nodup_shardsFrom (Nat.le_of_lt hk)
    have honce := steps.handedOnce (Composer.nodup_of_handedFirst hhanded hnodup)
    exact .inr ⟨k, hk, herror, hempty, rs, hhanded, honce⟩
  · rcases last.error_cases with ⟨cause, rfl⟩ | rfl
    · exact absurd rfl (hnetwork cause)
    · exact absurd rfl (hnonces a)

/-- A user in the first of two shards and none in the second: the first is handed a nonce. -/
theorem deployments_handed_before_stop_second_empty :
    let c := Composer.ofUsers [Signer.blank 2] 2
    let e := RunError.lookup (.user 1 0)
    let start : Moment (Recorded Simulation) := ⟨{}, ⟨{}, []⟩⟩
    (∀ cause, e ≠ .network cause) ∧ (∀ a, e ≠ .noncesExhausted a) ∧ ∃ after,
      Run.runFrom (c.adderDeployments Simulation.host.recorded) start = (.error e, after) ∧
      ∃ k < 2, e = .lookup (.user (UInt32.ofNat k) 0) ∧
        c.registry.usersIn (UInt32.ofNat k) = [] ∧
        ∃ rs, List.Forall₂ (Composer.HandedFirst c) (shardsFrom 0 k) rs ∧
          HandedOnce start rs after := by
  intro c e start
  have hnetwork : ∀ cause, e ≠ .network cause := by simp [e]
  have hnonces : ∀ a, e ≠ .noncesExhausted a := by simp [e]
  have hstops : (Run.runFrom (c.adderDeployments Simulation.host.recorded) start).1 = .error e := by
    decide +kernel
  rcases hrun : Run.runFrom (c.adderDeployments Simulation.host.recorded) start with ⟨r, after⟩
  rw [hrun] at hstops
  obtain rfl : r = .error e := hstops
  refine ⟨hnetwork, hnonces, after, rfl, ?_⟩
  rcases deployments_handed_before_stop Simulation.host c hnetwork hnonces hrun with
    ⟨⟨cause, -, hcode⟩, -⟩ | hempty
  · exact absurd hcode (by simp [e])
  · exact hempty

/-- There the deployments fail for want of a user, and yet the table has changed and the network
has been asked. -/
theorem deployments_fail_with_nonce_handed :
    let c := Composer.ofUsers [Signer.blank 2] 2
    let start : Moment (Recorded Simulation) := ⟨{}, ⟨{}, []⟩⟩
    let run := Run.runFrom (c.adderDeployments Simulation.host.recorded) start
    run.1 = .error (.lookup (.user 1 0)) ∧
      start.table.find? (Signer.blank 2).address = none ∧
      run.2.table.find? (Signer.blank 2).address = some 1 ∧
      run.2.world.exchanges.length = 1 := by
  decide +kernel

end ShardClient
