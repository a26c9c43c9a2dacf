/-
Reserving nonces, one after another.

Nonces of many accounts are reserved in any order, and the network may fail or say something else
each time it is asked.  Yet an account sees nothing of this but what was answered about itself.
Its reservations fail until the network first tells its nonce; from then on they are given the
numbers from that one on, without a gap and without another request; and when the greatest nonce
would be next, it is not given away and stays next for ever.  One reservation keeps this account
of things for all accounts, and so does any number of them.
-/
import ShardClient.Proofs.Run.Ledger

namespace ShardClient

variable {σ : Type}

/-! ### One reservation -/

/-- What a reservation for the account `a` leaves alone. -/
structure Spares (a : Address) (s : Moment (Recorded σ)) (r : Except RunError UInt64)
    (s₁ : Moment (Recorded σ)) : Prop where
  /-- The next nonce of any other account is as before. -/
  others : ∀ b, b ≠ a → s₁.table.find? b = s.table.find? b
  /-- The network is asked about the account once at most, about nothing else, and not at all if
  the next nonce is known. -/
  asks : s₁.world.exchanges = s.world.exchanges ∨
    s.table.find? a = none ∧
      ∃ answer, s₁.world.exchanges = s.world.exchanges ++ [.account a answer]
  /-- If that fails, then so does the reservation, and the whole table is as before. -/
  refused : ∀ fault, s₁.world.exchanges = s.world.exchanges ++ [.account a (.error fault)] →
    r = .error (.network fault) ∧ s₁.table = s.table
  /-- If the greatest nonce is next, then the reservation fails, and this nonce stays. -/
  last : s.table.find? a = some lastNonce → r = .error (.noncesExhausted a) ∧ s₁.table = s.table
  /-- The same, if the greatest nonce is the first that the network tells. -/
  toldLast : ∀ state, s₁.world.exchanges = s.world.exchanges ++ [.account a (.ok state)] →
    state.nonce = lastNonce →
    r = .error (.noncesExhausted a) ∧ s₁.table.find? a = some lastNonce
  /-- The greatest nonce is never handed out. -/
  never : r ≠ .ok lastNonce

variable {a : Address} {s s₁ : Moment (Recorded σ)} {r : Except RunError UInt64}

theorem Reserved.spares (h : Reserved a s r s₁) : Spares a s r s₁ := by
  have others : ∀ b, b ≠ a → s₁.table.find? b = s.table.find? b := fun b hb => h.find?_other hb
  -- Who has been asked had not been known before.
  have unknown : ∀ {P : Prop}, s.table.find? a = none → s.table.find? a = some lastNonce → P := by
    intro P hnone hlast
    rw [hnone] at hlast
    cases hlast
  cases h with
  | granted asked hn =>
    have never : ∀ {n}, n ≠ lastNonce → (.ok n : Except RunError UInt64) ≠ .ok lastNonce :=
      fun hn heq => hn (Except.ok.inj heq)
    cases asked with
    | known hnext =>
      have last : s.table.find? a ≠ some lastNonce := by
        intro hlast
        exact hn (Option.some.inj (hnext.symm.trans hlast))
      exact ⟨others, .inl rfl, by simp, fun hlast => absurd hlast last, by simp, never hn⟩
    | told state world hnone =>
      refine ⟨others, .inr ⟨hnone, _, rfl⟩, by simp, unknown hnone, ?_, never hn⟩
      intro other heq hlast
      obtain rfl : state = other := by simpa using heq
      exact absurd hlast hn
  | exhausted asked =>
    generalize hlast : lastNonce = last at asked
    cases asked with
    | known hnext => exact ⟨others, .inl rfl, by simp, fun _ => ⟨rfl, rfl⟩, by simp, nofun⟩
    | told state world hnone =>
      refine ⟨others, .inr ⟨hnone, _, rfl⟩, by simp, unknown hnone, ?_, nofun⟩
      intro _ _ _
      rw [hlast, AddressMap.find?_insert, if_pos rfl]
      exact ⟨rfl, rfl⟩
  | refused asked =>
    cases asked with
    | refused fault world hnone =>
      refine ⟨others, .inr ⟨hnone, _, rfl⟩, ?_, unknown hnone, by simp, nofun⟩
      intro other heq
      obtain rfl : fault = other := by simpa using heq
      exact ⟨rfl, rfl⟩

/-! ### The account of one account -/

/-- The answers of the network that are about an account, in order. -/
def answersAbout (a : Address) (exchanges : List Exchange) :
    List (Except NetworkFault AccountState) :=
  exchanges.filterMap fun
    | .account b answer => if b = a then some answer else none
    | _ => none

/-- What came of the reservations for an account, in order. -/
def resultsOf (a : Address) (results : List (Address × Except RunError UInt64)) :
    List (Except RunError UInt64) :=
  results.filterMap fun r => if r.1 = a then some r.2 else none

/-- How an account has fared: what the network has answered about it, what came of its
reservations, and what its next nonce is.  Either all requests have failed, each of them the
reservation for which it was made.  Or the last of them has told the first nonce; since then
`granted` reservations were given the numbers from that one on, and another `refused` ones
failed, but these only after the greatest nonce had come next. -/
inductive Fared (a : Address) : List (Except NetworkFault AccountState) →
    List (Except RunError UInt64) → Option UInt64 → Prop
  | unknown (faults : List NetworkFault) :
    Fared a (faults.map .error) (faults.map fun fault => .error (.network fault)) none
  | known (faults : List NetworkFault) (state : AccountState) {granted refused : Nat}
    {next : UInt64} (hcalls : 0 < granted + refused)
    (hnext : next.toNat = state.nonce.toNat + granted) (hlast : 0 < refused → next = lastNonce) :
    Fared a (faults.map .error ++ [.ok state])
      (faults.map (fun fault => .error (.network fault)) ++
        ((List.range' state.nonce.toNat granted).map fun n => .ok (UInt64.ofNat n)) ++
        List.replicate refused (.error (.noncesExhausted a)))
      (some next)

section

variable {answers : List (Except NetworkFault AccountState)}
  {results : List (Except RunError UInt64)} {n : UInt64}

theorem toNat_le_lastNonce (n : UInt64) : n.toNat ≤ lastNonce.toNat :=
  Nat.le_of_lt_succ n.toNat_lt

/-- Below the greatest nonce there is a next one. -/
theorem toNat_next (h : n ≠ lastNonce) : (n + 1).toNat = n.toNat + 1 := by
  have hlast : n.toNat ≠ 0xffffffffffffffff := fun heq => h (UInt64.toNat_inj.1 heq)
  have hlt := n.toNat_lt
  rw [UInt64.toNat_add]
  show (n.toNat + 1) % 2 ^ 64 = _
  omega

theorem Fared.refuse (h : Fared a answers results none) (fault : NetworkFault) :
    Fared a (answers ++ [.error fault]) (results ++ [.error (.network fault)]) none := by
  cases h with
  | unknown faults =>
    have hmore : Fared a _ _ none := .unknown (faults ++ [fault])
    rw [List.map_append, List.map_append] at hmore
    exact hmore

theorem Fared.tell {state : AccountState} (h : Fared a answers results none)
    (hn : state.nonce ≠ lastNonce) :
    Fared a (answers ++ [.ok state]) (results ++ [.ok state.nonce]) (some (state.nonce + 1)) := by
  cases h with
  | unknown faults =>
    have hfirst := @Fared.known a faults state 1 0 (state.nonce + 1) (by omega) (toNat_next hn)
      (by simp)
    simpa using hfirst

theorem Fared.tellLast {state : AccountState} (h : Fared a answers results none)
    (hn : state.nonce = lastNonce) :
    Fared a (answers ++ [.ok state]) (results ++ [.error (.noncesExhausted a)])
      (some lastNonce) := by
  cases h with
  | unknown faults =>
    have hfirst := @Fared.known a faults state 0 1 lastNonce (by omega)
      (by rw [hn, Nat.add_zero]) fun _ => rfl
    simpa using hfirst

theorem Fared.grant (h : Fared a answers results (some n)) (hn : n ≠ lastNonce) :
    Fared a answers (results ++ [.ok n]) (some (n + 1)) := by
  cases h with
  | @known faults state granted refused _ hcalls hnext hlast =>
    -- No reservation was refused yet, for the greatest nonce is not next.
    obtain rfl : refused = 0 := Nat.eq_zero_of_not_pos fun hpos => hn (hlast hpos)
    have hmore := @Fared.known a faults state (granted + 1) 0 (n + 1) (by omega)
      (by rw [toNat_next hn, hnext, Nat.add_assoc]) (by simp)
    rw [List.range'_concat, Nat.one_mul, ← hnext] at hmore
    simpa using hmore

theorem Fared.exhaust (h : Fared a answers results (some lastNonce)) :
    Fared a answers (results ++ [.error (.noncesExhausted a)]) (some lastNonce) := by
  cases h with
  | @known faults state granted refused _ hcalls hnext hlast =>
    have hmore := @Fared.known a faults state granted (refused + 1) lastNonce (by omega) hnext
      fun _ => rfl
    rw [List.replicate_succ', ← List.append_assoc] at hmore
    exact hmore

end

theorem answersAbout_append (a : Address) (xs ys : List Exchange) :
    answersAbout a (xs ++ ys) = answersAbout a xs ++ answersAbout a ys :=
  List.filterMap_append

theorem answersAbout_account (a : Address) (answer : Except NetworkFault AccountState) :
    answersAbout a [.account a answer] = [answer] := by
  simp [answersAbout]

theorem answersAbout_account_ne {b : Address} (h : b ≠ a)
    (answer : Except NetworkFault AccountState) : answersAbout b [.account a answer] = [] := by
  simp [answersAbout, Ne.symm h]

theorem answersAbout_concat (exchanges : List Exchange)
    (answer : Except NetworkFault AccountState) :
    answersAbout a (exchanges ++ [.account a answer]) = answersAbout a exchanges ++ [answer] := by
  rw [answersAbout_append, answersAbout_account]

/-- One reservation for an account is counted. -/
theorem Fared.reserved {results : List (Except RunError UInt64)} (step : Reserved a s r s₁)
    (h : Fared a (answersAbout a s.world.exchanges) results (s.table.find? a)) :
    Fared a (answersAbout a s₁.world.exchanges) (results ++ [r]) (s₁.table.find? a) := by
  cases step with
  | granted asked hn =>
    rw [AddressMap.find?_insert, if_pos rfl]
    cases asked with
    | known hknown =>
      rw [hknown] at h
      exact h.grant hn
    | told state world hnone =>
      rw [hnone] at h
      rw [answersAbout_concat]
      exact h.tell hn
  | exhausted asked =>
    generalize hlast : lastNonce = last at asked
    cases asked with
    | known hknown =>
      subst hlast
      rw [hknown] at h ⊢
      exact h.exhaust
    | told state world hnone =>
      rw [hnone] at h
      rw [answersAbout_concat, AddressMap.find?_insert, if_pos rfl, ← hlast]
      exact h.tellLast hlast.symm
  | refused asked =>
    cases asked with
    | refused e world hnone =>
      rw [hnone] at h ⊢
      rw [answersAbout_concat]
      exact h.refuse e

/-- A reservation for one account tells nothing of another. -/
theorem Reserved.answersAbout_other {b : Address} (step : Reserved a s r s₁) (h : b ≠ a) :
    answersAbout b s₁.world.exchanges = answersAbout b s.world.exchanges := by
  rcases step.spares.asks with hnothing | ⟨-, answer, hasked⟩
  · rw [hnothing]
  · rw [hasked, answersAbout_append, answersAbout_account_ne h, List.append_nil]

/-! ### All reservations -/

/-- Reserves nonces for one account after another; one that fails does not keep the next from
being tried.  Each result comes with its account. -/
def reserveAll (host : Host (StateM σ)) :
    List Address → Moment σ → List (Address × Except RunError UInt64) × Moment σ
  | [], s => ([], s)
  | a :: rest, s =>
    let first := Run.runFrom (reserveNonce host a) s
    let later := reserveAll host rest first.2
    ((a, first.1) :: later.1, later.2)

theorem map_fst_reserveAll (host : Host (StateM σ)) (accounts : List Address) (s : Moment σ) :
    (reserveAll host accounts s).1.map (·.1) = accounts := by
  induction accounts generalizing s with
  | nil => rfl
  | cons a rest ih =>
    rw [reserveAll, List.map_cons, ih]

/-- All reservations are counted, for all accounts. -/
theorem fared_reserveAll (host : Host (StateM σ)) (accounts : List Address)
    (before : List (Address × Except RunError UInt64))
    (h : ∀ a, Fared a (answersAbout a s.world.exchanges) (resultsOf a before) (s.table.find? a)) :
    let run := reserveAll host.recorded accounts s
    ∀ a, Fared a (answersAbout a run.2.world.exchanges) (resultsOf a (before ++ run.1))
      (run.2.table.find? a) := by
  induction accounts generalizing s before with
  | nil =>
    intro run a
    show Fared a _ (resultsOf a (before ++ [])) _
    rw [List.append_nil]
    exact h a
  | cons b rest ih =>
    have hstep := reserved_reserveNonce host b s
    rcases hrun : Run.runFrom (reserveNonce host.recorded b) s with ⟨r, s₁⟩
    rw [hrun] at hstep
    rw [reserveAll, hrun]
    intro run a
    show Fared a _ (resultsOf a (before ++ (b, r) :: _)) _
    rw [List.append_cons]
    refine ih (before ++ [(b, r)]) (fun a => ?_) a
    rw [resultsOf, List.filterMap_append]
    by_cases ha : a = b
    · subst ha
      simpa [resultsOf] using (h a).reserved hstep
    · rw [hstep.answersAbout_other ha, hstep.find?_other ha]
      simpa [resultsOf, Ne.symm ha] using h a

/-- **Each account is counted up on its own**, however reservations for different accounts follow
each other, and whatever the network answers each time.  A reservation spares all that is not its
account's; a request that fails changes nothing.  And of reservations from an empty table on, each
account has fared as if there were no others: its requests have failed up to the first that told
its nonce, and none was made after that; its reservations have failed as long as the requests
did, and were then given this nonce and the numbers behind it, one by one, up to but without the
greatest; and the next number is in the table. -/
theorem reservations_count_up (host : Host (StateM σ)) :
    (∀ (a : Address) (s : Moment (Recorded σ)),
      Spares a s (Run.runFrom (reserveNonce host.recorded a) s).1
        (Run.runFrom (reserveNonce host.recorded a) s).2) ∧
    ∀ (world : σ) (accounts : List Address),
      let run := reserveAll host.recorded accounts ⟨{}, ⟨world, []⟩⟩
      run.1.map (·.1) = accounts ∧
      ∀ a, Fared a (answersAbout a run.2.world.exchanges) (resultsOf a run.1)
        (run.2.table.find? a) := by
  refine ⟨fun a s => (reserved_reserveNonce host a s).spares, fun world accounts => ?_⟩
  exact ⟨map_fst_reserveAll host.recorded accounts _,
    fared_reserveAll host accounts [] fun a => .unknown []⟩

end ShardClient
