/-
Calls that stop with an error leave no trace.

An error that is found beforehand is found before the first nonce is handed out, so nothing has
been asked of the network and the table is as it was.  What remains are the errors of the
network and of accounts whose nonces are used up; signing and wrapping never fail.
-/
import ShardClient.Proofs.Composer.Relays
import ShardClient.Simulation.Network

namespace ShardClient

variable {σ : Type}

theorem RunError.IsRefusal.ne {e : RunError} (h : e.IsRefusal) :
    (∀ cause, e ≠ .signer cause) ∧ ∀ cause, e ≠ .relay cause := by
  constructor <;> rintro cause rfl <;> exact h

/-- **A refused call leaves no trace.**  If a call other than that of the deployments stops with
an error that is neither the network's nor that of used up nonces, then nothing has been asked
of the network and the table is as before.  And no call of these stops because a transaction
could not be signed or wrapped. -/
theorem refused_without_trace (host : Host (StateM σ)) (c : Composer) {call : Call}
    (hcall : call ≠ .adderDeployments) {s after : Moment (Recorded σ)} {e : RunError}
    (h : Run.runFrom (call.perform c host.recorded) s = (.error e, after)) :
    ((∀ cause, e ≠ .network cause) → (∀ a, e ≠ .noncesExhausted a) →
      after.table = s.table ∧ after.world.exchanges = s.world.exchanges) ∧
    (∀ cause, e ≠ .signer cause) ∧ ∀ cause, e ≠ .relay cause := by
  rcases (call.books c host).of_error h with ⟨rs, steps, hrefused⟩ | ⟨rs, s₀, a, steps, last⟩
  · obtain ⟨rfl, hrefusal⟩ := hrefused hcall
    exact ⟨fun _ _ => steps.of_nil, hrefusal.ne⟩
  · rcases last.error_cases with ⟨cause, rfl⟩ | rfl
    · exact ⟨fun hnetwork => absurd rfl (hnetwork cause), by simp, by simp⟩
    · exact ⟨fun _ hexhausted => absurd rfl (hexhausted a), by simp, by simp⟩

/-- A relayer that is managed, and a sender behind it that is not: the relayer's nonce stays. -/
theorem refused_without_trace_unknown_sender :
    let account (b : UInt8) := Account.ofSigner (Signer.blank b)
    let call := Call.relayed (.movesV3 (account 2) [account 3, account 4]
      [Address.zero, Address.zero] 5)
    let start : Moment (Recorded Simulation) := ⟨⟨[((account 2).address, 7)]⟩, ⟨{}, []⟩⟩
    let e := RunError.lookup (.account (account 4).address)
    call ≠ .adderDeployments ∧ ∃ after,
      Run.runFrom (call.perform Composer.small Simulation.host.recorded) start
        = (.error e, after) ∧
      after.table = start.table ∧ after.world.exchanges = start.world.exchanges := by
  intro account call start e
  have hcall : call ≠ .adderDeployments := by simp [call]
  have hstops : (Run.runFrom (call.perform Composer.small Simulation.host.recorded) start).1
      = .error e := rfl
  rcases hrun : Run.runFrom (call.perform Composer.small Simulation.host.recorded) start
    with ⟨r, after⟩
  rw [hrun] at hstops
  obtain rfl : r = .error e := hstops
  have htrace := refused_without_trace Simulation.host Composer.small hcall hrun
  exact ⟨hcall, after, rfl, htrace.1 (by simp [e]) (by simp [e])⟩

end ShardClient
