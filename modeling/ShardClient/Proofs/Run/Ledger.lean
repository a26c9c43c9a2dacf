/-
The nonces that have been handed out.

The table holds one number for each account, the network is asked at times of its own choosing,
and a request may fail.  What ties these together is the ledger: the nonces of an account that
have been handed out are those from the first one known up to, and without, the one in the table,
in this order.  One step keeps it, whether the step succeeds or fails, and so do all steps.
-/
import ShardClient.Proofs.Run.Upcoming

namespace ShardClient

variable {σ : Type}

/-! ### One step -/

/-- What comes of asking for the next nonce of an account, and the moment behind it. -/
inductive Asked (a : Address) (s : Moment (Recorded σ)) :
    Except RunError UInt64 → Moment (Recorded σ) → Prop
  | known {n : UInt64} (h : s.table.find? a = some n) : Asked a s (.ok n) s
  | told (state : AccountState) (world : σ) (h : s.table.find? a = none) :
    Asked a s (.ok state.nonce)
      ⟨s.table.insert a state.nonce, ⟨world, s.world.exchanges ++ [.account a (.ok state)]⟩⟩
  | refused (e : NetworkFault) (world : σ) (h : s.table.find? a = none) :
    Asked a s (.error (.network e))
      ⟨s.table, ⟨world, s.world.exchanges ++ [.account a (.error e)]⟩⟩

/-- What comes of reserving the next nonce of an account, and the moment behind it. -/
inductive Reserved (a : Address) (s : Moment (Recorded σ)) :
    Except RunError UInt64 → Moment (Recorded σ) → Prop
  | granted {n : UInt64} {s₁ : Moment (Recorded σ)} (asked : Asked a s (.ok n) s₁)
    (h : n ≠ lastNonce) : Reserved a s (.ok n) ⟨s₁.table.insert a (n + 1), s₁.world⟩
  | exhausted {s₁ : Moment (Recorded σ)} (asked : Asked a s (.ok lastNonce) s₁) :
    Reserved a s (.error (.noncesExhausted a)) s₁
  | refused {e : RunError} {s₁ : Moment (Recorded σ)} (asked : Asked a s (.error e) s₁) :
    Reserved a s (.error e) s₁

theorem asked_nextNonce (host : Host (StateM σ)) (a : Address) (s : Moment (Recorded σ)) :
    Asked a s (Run.runFrom (nextNonce host.recorded a) s).1
      (Run.runFrom (nextNonce host.recorded a) s).2 := by
  rw [runFrom_nextNonce, Host.recorded, record_run]
  cases h : s.table.find? a with
  | some n => exact .known h
  | none =>
    rcases (host.network.account a).run s.world.world with ⟨answer, world⟩
    cases answer with
    | ok state => exact .told state world h
    | error e => exact .refused e world h

theorem reserved_reserveNonce (host : Host (StateM σ)) (a : Address) (s : Moment (Recorded σ)) :
    Reserved a s (Run.runFrom (reserveNonce host.recorded a) s).1
      (Run.runFrom (reserveNonce host.recorded a) s).2 := by
  have hasked := asked_nextNonce host a s
  rw [runFrom_reserveNonce]
  rcases hr : Run.runFrom (nextNonce host.recorded a) s with ⟨r, s₁⟩
  rw [hr] at hasked
  cases r with
  | error e => exact .refused hasked
  | ok n =>
    by_cases hn : n = lastNonce
    · subst hn
      exact .exhausted hasked
    · simp only [if_neg hn]
      exact .granted hasked hn

/-- Only the network, or the end of the nonces, can keep a nonce from being reserved. -/
theorem Reserved.error_cases {a : Address} {s s₁ : Moment (Recorded σ)} {e : RunError}
    (h : Reserved a s (.error e) s₁) :
    (∃ cause, e = .network cause) ∨ e = .noncesExhausted a := by
  cases h with
  | exhausted => exact .inr rfl
  | refused asked =>
    cases asked with
    | refused cause => exact .inl ⟨cause, rfl⟩

/-! ### The ledger -/

/-- The nonces of an account among those handed out, in order. -/
def noncesOf (a : Address) (rs : List Reservation) : List Nat :=
  (rs.filter fun r => r.1 = a).map fun r => r.2.toNat

theorem noncesOf_append (a : Address) (rs qs : List Reservation) :
    noncesOf a (rs ++ qs) = noncesOf a rs ++ noncesOf a qs := by
  rw [noncesOf, List.filter_append, List.map_append]
  rfl

theorem noncesOf_cons_self (a : Address) (n : UInt64) (rs : List Reservation) :
    noncesOf a ((a, n) :: rs) = n.toNat :: noncesOf a rs := by
  simp [noncesOf]

theorem noncesOf_other {a b : Address} (h : b ≠ a) (n : UInt64) : noncesOf a [(b, n)] = [] := by
  simp [noncesOf, h]

/-- The first nonce of an account that is known: from before, or from the network. -/
def firstNonce (before : NonceTable) (exchanges : List Exchange) (a : Address) : Option UInt64 :=
  (before.find? a).or (firstFetched a exchanges)

/-- An account in the ledger: the first nonce known, the next one to be handed out, and those
handed out. -/
inductive Tally : (first next : Option UInt64) → (nonces : List Nat) → Prop
  | unknown : Tally none none []
  | counting {first next : UInt64} {count : Nat} (h : next.toNat = first.toNat + count) :
    Tally (some first) (some next) (List.range' first.toNat count)

theorem Tally.of_unused (next : Option UInt64) : Tally next next [] := by
  cases next with
  | none => exact .unknown
  | some n =>
    have h : Tally (some n) (some n) (List.range' n.toNat 0) := .counting rfl
    exact h

theorem Tally.of_next_none {first : Option UInt64} {nonces : List Nat}
    (h : Tally first none nonces) : first = none ∧ nonces = [] := by
  cases h
  exact ⟨rfl, rfl⟩

theorem Tally.increasing {first next : Option UInt64} {nonces : List Nat}
    (h : Tally first next nonces) : nonces.Pairwise (· < ·) := by
  cases h with
  | unknown => exact .nil
  | counting => exact List.pairwise_lt_range'

/-- The nonce that is handed out next goes behind those before it. -/
theorem Tally.grant {first : Option UInt64} {n : UInt64} {nonces : List Nat}
    (h : Tally first (some n) nonces) (hn : n ≠ lastNonce) :
    Tally first (some (n + 1)) (nonces ++ [n.toNat]) := by
  have hlast : n.toNat ≠ 0xffffffffffffffff := by
    intro heq
    exact hn (UInt64.toNat_inj.1 heq)
  have hlt := n.toNat_lt
  cases h with
  | @counting first _ count h =>
    have hrange : List.range' first.toNat count ++ [n.toNat]
        = List.range' first.toNat (count + 1) := by
      rw [List.range'_concat, h, Nat.one_mul]
    rw [hrange]
    refine .counting ?_
    -- below the last nonce the increment does not wrap
    rw [UInt64.toNat_add, h]
    show (first.toNat + count + 1) % 2 ^ 64 = _
    omega

/-- The ledger, at a moment and with all that has been handed out since `before`. -/
def Ledger (before : NonceTable) (s : Moment (Recorded σ)) (spent : List Reservation) : Prop :=
  ∀ a, Tally (firstNonce before s.world.exchanges a) (s.table.find? a) (noncesOf a spent)

theorem ledger_start (before : NonceTable) (world : σ) :
    Ledger before ⟨before, ⟨world, []⟩⟩ [] := by
  intro a
  rw [firstNonce, show firstFetched a [] = none from rfl, Option.or_none]
  exact .of_unused _

variable {before : NonceTable} {s s₁ : Moment (Recorded σ)} {spent : List Reservation}
  {a : Address}

/-- An answer about one account tells nothing of another. -/
theorem firstNonce_account_ne {b : Address} (h : a ≠ b) (exchanges : List Exchange)
    (answer : Except NetworkFault AccountState) :
    firstNonce before (exchanges ++ [.account a answer]) b = firstNonce before exchanges b := by
  have hfetched : firstFetched b [.account a answer] = none := by
    cases answer <;> simp [firstFetched, Exchange.fetched, h]
  rw [firstNonce, firstFetched_append, hfetched, Option.or_none]
  rfl

/-- A failed request tells nothing of any account. -/
theorem firstNonce_account_error (b : Address) (exchanges : List Exchange) (e : NetworkFault) :
    firstNonce before (exchanges ++ [.account a (.error e)]) b
      = firstNonce before exchanges b := by
  rw [firstNonce, firstFetched_append]
  exact congrArg _ (Option.or_none ..)

/-- An account of which nothing was known is known from now on. -/
theorem firstNonce_account_ok {exchanges : List Exchange} {state : AccountState}
    (h : firstNonce before exchanges a = none) :
    firstNonce before (exchanges ++ [.account a (.ok state)]) a = some state.nonce := by
  rw [firstNonce, Option.or_eq_none_iff] at h
  rw [firstNonce, firstFetched_append, h.1, h.2]
  simp [firstFetched, Exchange.fetched]

theorem Ledger.asked {r : Except RunError UInt64} (h : Ledger before s spent)
    (step : Asked a s r s₁) : Ledger before s₁ spent := by
  cases step with
  | known => exact h
  | told state world hnone =>
    intro b
    by_cases hb : b = a
    · subst hb
      -- no nonce of this account stood in the table, so none has been handed out
      have hb := h b
      rw [hnone] at hb
      obtain ⟨hfirst, hspent⟩ := hb.of_next_none
      rw [firstNonce_account_ok hfirst, hspent, AddressMap.find?_insert, if_pos rfl]
      exact .of_unused _
    · rw [firstNonce_account_ne (Ne.symm hb), AddressMap.find?_insert, if_neg hb]
      exact h b
  | refused e world _ =>
    intro b
    rw [firstNonce_account_error]
    exact h b

/-- What is asked for stands in the table afterwards. -/
theorem Asked.find? {n : UInt64} (step : Asked a s (.ok n) s₁) : s₁.table.find? a = some n := by
  cases step with
  | known h => exact h
  | told state world _ => simp

/-- A nonce that is handed out is entered in the ledger. -/
theorem Ledger.granted {n : UInt64} (h : Ledger before s spent) (step : Reserved a s (.ok n) s₁) :
    Ledger before s₁ (spent ++ [(a, n)]) := by
  cases step with
  | granted asked hn =>
    intro b
    have hb := h.asked asked b
    rw [AddressMap.find?_insert, noncesOf_append]
    by_cases hba : b = a
    · subst hba
      rw [asked.find?] at hb
      rw [if_pos rfl, noncesOf_cons_self]
      exact hb.grant hn
    · rw [if_neg hba, noncesOf_other (Ne.symm hba), List.append_nil]
      exact hb

/-- A nonce that cannot be handed out leaves the ledger as it is. -/
theorem Ledger.blocked {e : RunError} (h : Ledger before s spent)
    (step : Reserved a s (.error e) s₁) : Ledger before s₁ spent := by
  cases step with
  | exhausted asked => exact h.asked asked
  | refused asked => exact h.asked asked

/-! ### All steps -/

/-- Nonces handed out one after another; the world may change in between, but makes no request. -/
inductive Steps : Moment (Recorded σ) → List Reservation → Moment (Recorded σ) → Prop
  | refl (s : Moment (Recorded σ)) : Steps s [] s
  | reserve {s s₁ s₂ : Moment (Recorded σ)} {a : Address} {n : UInt64} {rs : List Reservation}
    (first : Reserved a s (.ok n) s₁) (rest : Steps s₁ rs s₂) : Steps s ((a, n) :: rs) s₂
  | outside {s s₁ : Moment (Recorded σ)} {rs : List Reservation} (world : σ)
    (rest : Steps ⟨s.table, ⟨world, s.world.exchanges⟩⟩ rs s₁) : Steps s rs s₁

theorem Steps.trans {s₂ : Moment (Recorded σ)} {rs qs : List Reservation} (h : Steps s rs s₁)
    (h₂ : Steps s₁ qs s₂) : Steps s (rs ++ qs) s₂ := by
  induction h with
  | refl => exact h₂
  | reserve first _ ih => exact .reserve first (ih h₂)
  | outside world _ ih => exact .outside world (ih h₂)

/-- **All steps keep the ledger.** -/
theorem Ledger.steps {rs : List Reservation} (h : Ledger before s spent) (steps : Steps s rs s₁) :
    Ledger before s₁ (spent ++ rs) := by
  induction steps generalizing spent with
  | refl =>
    rw [List.append_nil]
    exact h
  | reserve first _ ih =>
    rw [List.append_cons]
    exact ih (h.granted first)
  | outside world _ ih => exact ih h

theorem Reserved.find?_other {r : Except RunError UInt64} {b : Address} (step : Reserved a s r s₁)
    (h : b ≠ a) : s₁.table.find? b = s.table.find? b := by
  have hasked : ∀ {r : Except RunError UInt64} {s₁ : Moment (Recorded σ)}, Asked a s r s₁ →
      s₁.table.find? b = s.table.find? b := by
    intro r s₁ asked
    cases asked with
    | known => rfl
    | told => rw [AddressMap.find?_insert, if_neg h]
    | refused => rfl
  cases step with
  | granted asked => rw [AddressMap.find?_insert, if_neg h, hasked asked]
  | exhausted asked => exact hasked asked
  | refused asked => exact hasked asked

/-- Steps that hand nothing out ask nothing and change no nonce. -/
theorem Steps.of_nil {s s₁ : Moment (Recorded σ)} (h : Steps s [] s₁) :
    s₁.table = s.table ∧ s₁.world.exchanges = s.world.exchanges := by
  generalize hrs : ([] : List Reservation) = rs at h
  induction h with
  | refl => exact ⟨rfl, rfl⟩
  | reserve => simp at hrs
  | outside world _ ih => exact ih hrs

/-- The steps change the entries of those accounts only whose nonces are handed out. -/
theorem Steps.find?_other {rs : List Reservation} {b : Address} (steps : Steps s rs s₁)
    (h : ∀ r ∈ rs, b ≠ r.1) : s₁.table.find? b = s.table.find? b := by
  induction steps with
  | refl => rfl
  | reserve first _ ih =>
    rw [ih fun r hr => h r (List.mem_cons_of_mem _ hr),
      first.find?_other (h _ List.mem_cons_self)]
  | outside world _ ih => exact ih h

end ShardClient
