/-
Runs that do not blame the configuration.

A run may end for many reasons, and most of them come up on the way.  That the configuration is at
fault is not one of these: what it says is known before the run begins.  `Blameless x` says that
the run does not end for such a reason, whatever the network answers.  The rules follow the ways
in which runs are put together; sending and waiting are blameless, and so is what is made of
lookups and reservations, if nothing is lacking.
-/
import ShardClient.Proofs.Composer.Making
import ShardClient.Submission

namespace ShardClient

variable {σ α β : Type}

/-- The run never ends for a fault of the configuration. -/
def Blameless (x : Run (StateM σ) α) : Prop :=
  ∀ s cause, (Run.runFrom x s).1 ≠ .error (.configuration cause)

/-! ### Rules -/

/-- A run that never ends for any fault. -/
theorem blameless_of_ok {x : Run (StateM σ) α} (h : ∀ s, ∃ a, (Run.runFrom x s).1 = .ok a) :
    Blameless x := by
  intro s cause
  obtain ⟨a, ha⟩ := h s
  rw [ha]
  simp

theorem blameless_pure (a : α) : Blameless (pure a : Run (StateM σ) α) :=
  blameless_of_ok fun _ => ⟨a, rfl⟩

theorem blameless_act (action : StateM σ α) : Blameless (Run.act action) :=
  blameless_of_ok fun _ => ⟨_, rfl⟩

theorem blameless_throw {e : RunError} (h : ∀ cause, e ≠ .configuration cause) :
    Blameless (throw e : Run (StateM σ) α) := by
  intro s cause hrun
  rw [Run.runFrom_throw] at hrun
  exact h cause (Except.error.inj hrun)

theorem blameless_ask (request : StateM σ (Except NetworkFault α)) :
    Blameless (Run.ask request) := by
  intro s cause
  rw [Run.runFrom_ask]
  cases (request.run s.world).1 <;> simp [Except.mapError]

theorem Blameless.bind {x : Run (StateM σ) α} {f : α → Run (StateM σ) β} (hx : Blameless x)
    (hf : ∀ a, Blameless (f a)) : Blameless (x >>= f) := by
  intro s cause
  have hfirst := hx s cause
  rcases hrun : Run.runFrom x s with ⟨r, s₁⟩
  rw [hrun] at hfirst
  cases r with
  | error e =>
    rw [Run.runFrom_bind_error hrun]
    simpa using hfirst
  | ok a =>
    rw [Run.runFrom_bind_ok hrun]
    exact hf a s₁ cause

theorem blameless_mapM {items : List β} {g : β → Run (StateM σ) α}
    (h : ∀ b ∈ items, Blameless (g b)) : Blameless (items.mapM g) := by
  induction items with
  | nil =>
    rw [List.mapM_nil]
    exact blameless_pure []
  | cons b items ih =>
    rw [List.forall_mem_cons] at h
    rw [List.mapM_cons]
    exact h.1.bind fun a => (ih h.2).bind fun as => blameless_pure (a :: as)

/-! ### Reserving and building -/

/-- A nonce that cannot be reserved is for the network, or for the account, to answer for. -/
theorem blameless_reserveNonce (host : Host (StateM σ)) (a : Address) :
    Blameless (reserveNonce host a) := by
  intro s cause
  cases hnext : upcoming host a s with
  | error fault =>
    obtain ⟨world, hrefused⟩ := reserveNonce_of_error hnext
    rw [hrefused]
    exact nofun
  | ok n =>
    rw [(reserveNonce_of_ok hnext).1, reserveNext]
    by_cases hn : n = lastNonce
    · rw [if_pos hn]
      exact nofun
    · rw [if_neg hn]
      exact nofun

/-- What is made of lookups and reservations blames nothing if nothing is lacking. -/
theorem Made.blameless {host : Host (StateM σ)} {own : Address → Prop} {lacking : Prop}
    {x : Run (StateM σ) α} (h : Made host own lacking x) (hlacking : ¬lacking) : Blameless x := by
  induction h with
  | pure a => exact blameless_pure a
  | throw h => exact blameless_throw fun cause hcause => hlacking (h cause hcause)
  | info text => exact blameless_act _
  | reserve _ => exact blameless_reserveNonce host _
  | bind _ _ ihfirst ihrest => exact ihfirst.bind ihrest

/-! ### Sending and waiting -/

namespace Courier

variable (c : Courier) (host : Host (StateM σ))

theorem blameless_send (t : Signed) : Blameless (c.send host t) := by
  apply (blameless_ask _).bind
  intro hash
  exact (blameless_act _).bind fun _ => blameless_pure hash

theorem blameless_keepAccepted (pairs : List (Signed × Option String)) :
    Blameless (keepAccepted host pairs) := by
  induction pairs with
  | nil => exact blameless_pure []
  | cons pair pairs ih =>
    obtain ⟨t, hash?⟩ := pair
    cases hash? with
    | some hash => exact ih.bind fun accepted => blameless_pure _
    | none => exact (blameless_act _).bind fun _ => ih

theorem blameless_sendBatch (ts : List Signed) : Blameless (c.sendBatch host ts) := by
  apply (blameless_ask _).bind
  intro hashes
  apply (blameless_keepAccepted host _).bind
  intro accepted
  exact (blameless_act _).bind fun _ => blameless_pure accepted

theorem blameless_poll (p : Patience) (hash : String) (start : Duration) (polls : Nat) :
    Blameless (p.poll host hash start polls) := by
  induction polls with
  | zero => exact blameless_throw nofun
  | succ polls ih =>
    apply (blameless_ask _).bind
    intro outcome
    by_cases hfinal : outcome.status.isFinal = true
    · rw [if_pos hfinal]
      exact blameless_pure outcome
    · rw [if_neg hfinal]
      apply (blameless_act _).bind
      intro now
      show Blameless (if p.timeout ≤ now - start then _ else _)
      by_cases htime : p.timeout ≤ now - start
      · rw [if_pos htime]
        exact blameless_throw nofun
      · rw [if_neg htime]
        exact (blameless_act _).bind fun _ => ih

theorem blameless_await (p : Patience) (hash : String) : Blameless (p.await host hash) :=
  (blameless_act _).bind fun start => blameless_poll host p hash start p.maxPolls

theorem blameless_awaitOne (hash : String) : Blameless (c.awaitOne host hash) := by
  apply (blameless_await host c.patience hash).bind
  intro outcome
  exact (blameless_act _).bind fun _ => blameless_pure outcome

theorem blameless_awaitAll (accepted : List Accepted) : Blameless (c.awaitAll host accepted) := by
  apply (blameless_act _).bind
  intro _
  apply blameless_mapM
  intro a _
  exact c.blameless_awaitOne host a.hash

end Courier

end ShardClient
