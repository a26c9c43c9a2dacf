/-
Calls of different accounts commute.

A call looks at the table only where it reserves, and it reserves for accounts of its own.  So
calls that have no account in common can be made in either order, if the network says the same
of an account whenever it is asked.  A call that fails on its way, with some nonces reserved, is no
exception.
-/
import ShardClient.Proofs.Composer.Making
import ShardClient.Proofs.Run.Confined

namespace ShardClient

variable {σ α : Type}

/-- What is made of reservations for some accounts is confined to them. -/
theorem Made.confined {host : Host (StateM σ)} {own : Address → Prop} {lacking : Prop}
    {answer : Address → Except NetworkFault AccountState} (steady : host.Steady answer)
    {x : Run (StateM σ) α} (h : Made host own lacking x) : Confined own x := by
  induction h with
  | pure a => exact confined_pure a
  | throw => exact confined_throw _
  | info text => exact confined_act (host.info text)
  | reserve ha => exact steady.confined_reserveNonce ha
  | bind _ _ ihfirst ihrest => exact ihfirst.bind ihrest

/-- **Independent calls commute.**  If the network is steady, and two calls have no account in
common, then each comes to the same whether it is made first or second, and behind both of them
every account has the same next nonce. -/
theorem independent_calls_commute {host : Host (StateM σ)}
    {answer : Address → Except NetworkFault AccountState} (steady : host.Steady answer)
    (c : Composer) {first second : Call}
    (disjoint : ∀ a ∈ first.accounts c, a ∉ second.accounts c) (s : Moment σ) :
    let x := first.perform c host
    let y := second.perform c host
    (Run.runFrom x (Run.runFrom y s).2).1 = (Run.runFrom x s).1 ∧
    (Run.runFrom y (Run.runFrom x s).2).1 = (Run.runFrom y s).1 ∧
    ∀ a, (Run.runFrom y (Run.runFrom x s).2).2.table.find? a
      = (Run.runFrom x (Run.runFrom y s).2).2.table.find? a := by
  intro x y
  have hx : Confined (· ∈ first.accounts c) x := (first.made c host).confined steady
  have hy : Confined (· ∈ second.accounts c) y := (second.made c host).confined steady
  have hswap : ∀ a ∈ second.accounts c, a ∉ first.accounts c :=
    fun a ha hfirst => disjoint a hfirst ha
  exact ⟨hx.result_after hy disjoint s, hy.result_after hx hswap s, hy.find?_after hx hswap s⟩

/-- A host that tells of accounts, always the same, and does nothing else. -/
def Host.telling (answer : Address → Except NetworkFault AccountState) : Host (StateM Unit) where
  network :=
    { account := fun a => pure (answer a)
      submit := fun _ => pure (.error (.http .undecodable))
      submitBatch := fun _ => pure (.error (.http .undecodable))
      outcome := fun _ _ => pure (.error (.http .undecodable)) }
  now := pure 0
  pause := fun _ => pure ()
  log := fun _ => pure ()

/-- An envelope whose relayer has a nonce reserved when the request for the sender fails, and an
issuance by the sponsor. -/
theorem independent_calls_commute_failing_sender :
    let account (b : UInt8) := Account.ofSigner (Signer.blank b)
    let fault : NetworkFault := .http .undecodable
    let answer (a : Address) : Except NetworkFault AccountState :=
      if a = (account 3).address then .error fault else .ok ⟨a, 5, 0⟩
    let host := Host.telling answer
    let first := Call.relayed (.movesV3 (account 2) [account 3] [Address.zero] 7)
    let second := Call.issuance "COIN"
    let x := first.perform Composer.small host
    let y := second.perform Composer.small host
    let start : Moment Unit := ⟨{}, ()⟩
    host.Steady answer ∧
    (∀ a ∈ first.accounts Composer.small, a ∉ second.accounts Composer.small) ∧
    (Run.runFrom x start).2.table.find? (account 2).address = some 6 ∧
    (Run.runFrom x (Run.runFrom y start).2).1 = .error (.network fault) ∧
    (Run.runFrom y (Run.runFrom x start).2).1 = (Run.runFrom y start).1 ∧
    ∀ a, (Run.runFrom y (Run.runFrom x start).2).2.table.find? a
      = (Run.runFrom x (Run.runFrom y start).2).2.table.find? a := by
  intro account fault answer host first second x y start
  have steady : host.Steady answer := fun _ _ => rfl
  have disjoint : ∀ a ∈ first.accounts Composer.small, a ∉ second.accounts Composer.small := by
    decide
  have hfails : (Run.runFrom x start).1 = .error (.network fault) := rfl
  obtain ⟨hfirst, hsecond, htable⟩ :=
    independent_calls_commute steady Composer.small disjoint start
  exact ⟨steady, disjoint, rfl, hfirst.trans hfails, hsecond, htable⟩

end ShardClient
