/-
The nonce that comes next.

Before a nonce is reserved it has to be found out which one is next: it stands in the table, or the
network is asked.  What becomes of the reservation depends on nothing but what is found, so it can
be told in advance.
-/
import ShardClient.Proofs.Run.Recording

namespace ShardClient

variable {σ : Type} {host : Host (StateM σ)} {a : Address} {s : Moment σ}

/-- What is found of the next nonce of an account: it is the one in the table, or else the one that
the network tells. -/
def upcoming (host : Host (StateM σ)) (a : Address) (s : Moment σ) : Except NetworkFault UInt64 :=
  match s.table.find? a with
  | some n => .ok n
  | none => ((host.network.account a).run s.world).1.map (·.nonce)

theorem upcoming_of_find? {n : UInt64} (h : s.table.find? a = some n) :
    upcoming host a s = .ok n := by
  rw [upcoming, h]

theorem upcoming_of_none (h : s.table.find? a = none) :
    upcoming host a s = ((host.network.account a).run s.world).1.map (·.nonce) := by
  rw [upcoming, h]

/-! ### Finding it -/

/-- The nonce stands in the table, or the network is asked; what it tells is put into the table. -/
theorem runFrom_nextNonce (host : Host (StateM σ)) (a : Address) (s : Moment σ) :
    Run.runFrom (nextNonce host a) s =
      match s.table.find? a, (host.network.account a).run s.world with
      | some n, _ => (.ok n, s)
      | none, (.ok state, world) => (.ok state.nonce, ⟨s.table.insert a state.nonce, world⟩)
      | none, (.error fault, world) => (.error (.network fault), ⟨s.table, world⟩) := by
  have hget : Run.runFrom get s = (.ok s.table, s) := rfl
  rw [nextNonce, Run.runFrom_bind_ok hget]
  cases s.table.find? a with
  | some n => rfl
  | none =>
    have hask := Run.runFrom_ask (host.network.account a) s
    rcases hanswer : (host.network.account a).run s.world with ⟨answer, world⟩
    rw [hanswer] at hask
    cases answer with
    | error fault => exact Run.runFrom_bind_error hask
    | ok state => exact Run.runFrom_bind_ok hask

/-- The nonce that is found stands in the table from then on; nothing else there is changed. -/
theorem nextNonce_of_ok {n : UInt64} (h : upcoming host a s = .ok n) :
    ∃ s₁, Run.runFrom (nextNonce host a) s = (.ok n, s₁) ∧
      ∀ b, s₁.table.find? b = if b = a then some n else s.table.find? b := by
  rw [runFrom_nextNonce]
  cases hnext : s.table.find? a with
  | some m =>
    rw [upcoming_of_find? hnext] at h
    obtain rfl := Except.ok.inj h
    refine ⟨s, rfl, fun b => ?_⟩
    by_cases hb : b = a
    · rw [if_pos hb, hb, hnext]
    · rw [if_neg hb]
  | none =>
    rw [upcoming_of_none hnext] at h
    rcases hanswer : (host.network.account a).run s.world with ⟨answer, world⟩
    rw [hanswer] at h
    cases answer with
    | error fault => cases h
    | ok state =>
      obtain rfl := Except.ok.inj h
      exact ⟨_, rfl, fun b => AddressMap.find?_insert s.table a b state.nonce⟩

/-- If the network does not tell it, the table is as before. -/
theorem nextNonce_of_error {fault : NetworkFault} (h : upcoming host a s = .error fault) :
    ∃ world, Run.runFrom (nextNonce host a) s = (.error (.network fault), ⟨s.table, world⟩) := by
  rw [runFrom_nextNonce]
  cases hnext : s.table.find? a with
  | some m =>
    rw [upcoming_of_find? hnext] at h
    cases h
  | none =>
    rw [upcoming_of_none hnext] at h
    rcases hanswer : (host.network.account a).run s.world with ⟨answer, world⟩
    rw [hanswer] at h
    cases answer with
    | ok state => cases h
    | error cause =>
      obtain rfl := Except.error.inj h
      exact ⟨world, rfl⟩

/-! ### Reserving it -/

/-- The nonce that comes next is handed out and counted, unless it is the last one. -/
theorem runFrom_reserveNonce (host : Host (StateM σ)) (a : Address) (s : Moment σ) :
    Run.runFrom (reserveNonce host a) s =
      match Run.runFrom (nextNonce host a) s with
      | (.error e, s₁) => (.error e, s₁)
      | (.ok n, s₁) =>
        if n = lastNonce then (.error (.noncesExhausted a), s₁)
        else (.ok n, ⟨s₁.table.insert a (n + 1), s₁.world⟩) := by
  unfold reserveNonce
  rcases hnext : Run.runFrom (nextNonce host a) s with ⟨r, s₁⟩
  cases r with
  | error e => exact Run.runFrom_bind_error hnext
  | ok n =>
    rw [Run.runFrom_bind_ok hnext]
    by_cases hn : n = lastNonce
    · rw [if_pos hn]
      exact (if_pos hn).symm
    · rw [if_neg hn]
      exact (if_neg hn).symm

/-- What comes of a reservation if `n` is next, and what is next after it. -/
def reserveNext (a : Address) (n : UInt64) : Except RunError UInt64 × Option UInt64 :=
  if n = lastNonce then (.error (.noncesExhausted a), some n) else (.ok n, some (n + 1))

/-- A reservation, if the next nonce is found. -/
theorem reserveNonce_of_ok {n : UInt64} (h : upcoming host a s = .ok n) :
    (Run.runFrom (reserveNonce host a) s).1 = (reserveNext a n).1 ∧
    ∀ b, (Run.runFrom (reserveNonce host a) s).2.table.find? b
      = if b = a then (reserveNext a n).2 else s.table.find? b := by
  obtain ⟨s₁, hnext, htable⟩ := nextNonce_of_ok h
  rw [runFrom_reserveNonce, hnext]
  unfold reserveNext
  by_cases hn : n = lastNonce
  · simp only [if_pos hn]
    exact ⟨trivial, htable⟩
  · simp only [if_neg hn]
    refine ⟨trivial, fun b => ?_⟩
    rw [AddressMap.find?_insert, htable]
    by_cases hb : b = a
    · rw [if_pos hb, if_pos hb]
    · rw [if_neg hb, if_neg hb, if_neg hb]

/-- A reservation, if the next nonce is not found. -/
theorem reserveNonce_of_error {fault : NetworkFault} (h : upcoming host a s = .error fault) :
    ∃ world, Run.runFrom (reserveNonce host a) s
      = (.error (.network fault), ⟨s.table, world⟩) := by
  obtain ⟨world, hnext⟩ := nextNonce_of_error h
  rw [runFrom_reserveNonce, hnext]
  exact ⟨world, rfl⟩

/-- A reservation is no matter to other accounts. -/
theorem find?_reserveNonce {b : Address} (h : b ≠ a) (s : Moment σ) :
    (Run.runFrom (reserveNonce host a) s).2.table.find? b = s.table.find? b := by
  cases hnext : upcoming host a s with
  | ok n => rw [(reserveNonce_of_ok hnext).2, if_neg h]
  | error fault =>
    obtain ⟨world, hreserve⟩ := reserveNonce_of_error hnext
    rw [hreserve]

end ShardClient
