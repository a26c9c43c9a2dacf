/-
What is asked of the network while nonces are handed out.

Only accounts are asked for, and nothing is asked behind a request that was not served, for such a
request ends the run.  Sending a transaction, on the other hand, tells the ledger nothing: what
it counts comes from accounts alone.
-/
import ShardClient.Proofs.Run.Books

namespace ShardClient

variable {σ α : Type}

/-- Whether the network served the request. -/
def Exchange.served : Exchange → Bool
  | .account _ answer => answer.isOk
  | .submit _ answer => answer.isOk
  | .submitBatch _ answer => answer.isOk
  | .outcome _ _ answer => answer.isOk

/-- Nothing comes behind an exchange that was not served. -/
def Quiet (exchanges : List Exchange) : Prop := exchanges.Pairwise fun x _ => x.served = true

theorem Quiet.of_served {exchanges : List Exchange} (h : ∀ x ∈ exchanges, x.served = true) :
    Quiet exchanges := by
  induction exchanges with
  | nil => exact .nil
  | cons x rest ih =>
    rw [List.forall_mem_cons] at h
    exact .cons (fun _ _ => h.1) (ih h.2)

theorem Quiet.append {before rest : List Exchange} (h : ∀ x ∈ before, x.served = true)
    (hrest : Quiet rest) : Quiet (before ++ rest) :=
  List.pairwise_append.2 ⟨Quiet.of_served h, hrest, fun x hx _ _ => h x hx⟩

/-- What is asked between two moments is about accounts. -/
structure Asks (s s₁ : Moment (Recorded σ)) (asked : List Exchange) : Prop where
  exchanges : s₁.world.exchanges = s.world.exchanges ++ asked
  accounts : ∀ x ∈ asked, ∃ a answer, x = .account a answer

theorem Asks.nothing {s s₁ : Moment (Recorded σ)} (h : s₁.world.exchanges = s.world.exchanges) :
    Asks s s₁ [] := ⟨by rw [h, List.append_nil], by simp⟩

theorem Asks.trans {s s₁ s₂ : Moment (Recorded σ)} {xs ys : List Exchange} (h : Asks s s₁ xs)
    (h₂ : Asks s₁ s₂ ys) : Asks s s₂ (xs ++ ys) := by
  refine ⟨by rw [h₂.exchanges, h.exchanges, List.append_assoc], ?_⟩
  rw [List.forall_mem_append]
  exact ⟨h.accounts, h₂.accounts⟩

/-- Asking for the next nonce makes one request at most. -/
theorem Asked.asks {a : Address} {s s₁ : Moment (Recorded σ)} {r : Except RunError UInt64}
    (h : Asked a s r s₁) :
    ∃ asked, Asks s s₁ asked ∧ Quiet asked ∧
      ∀ n, r = .ok n → ∀ x ∈ asked, x.served = true := by
  cases h with
  | known => exact ⟨[], .nothing rfl, .nil, by simp⟩
  | told state world =>
    refine ⟨[.account a (.ok state)], ⟨rfl, by simp⟩, List.pairwise_singleton _ _, ?_⟩
    intro _ _ x hx
    rw [List.mem_singleton.1 hx]
    rfl
  | refused e world =>
    exact ⟨[.account a (.error e)], ⟨rfl, by simp⟩, List.pairwise_singleton _ _, by simp⟩

theorem Reserved.asks {a : Address} {s s₁ : Moment (Recorded σ)} {r : Except RunError UInt64}
    (h : Reserved a s r s₁) :
    ∃ asked, Asks s s₁ asked ∧ Quiet asked ∧
      ∀ n, r = .ok n → ∀ x ∈ asked, x.served = true := by
  cases h with
  | granted asked =>
    obtain ⟨xs, hasks, hquiet, hserved⟩ := asked.asks
    exact ⟨xs, ⟨hasks.exchanges, hasks.accounts⟩, hquiet, hserved⟩
  | exhausted asked =>
    obtain ⟨xs, hasks, hquiet, -⟩ := asked.asks
    exact ⟨xs, hasks, hquiet, by simp⟩
  | refused asked => exact asked.asks

/-- All requests between nonces that are handed out have been served. -/
theorem Steps.asks {s s₁ : Moment (Recorded σ)} {rs : List Reservation} (h : Steps s rs s₁) :
    ∃ asked, Asks s s₁ asked ∧ ∀ x ∈ asked, x.served = true := by
  induction h with
  | refl => exact ⟨[], .nothing rfl, by simp⟩
  | reserve first _ ih =>
    obtain ⟨xs, hasks, -, hserved⟩ := first.asks
    obtain ⟨ys, hrest, hall⟩ := ih
    refine ⟨xs ++ ys, hasks.trans hrest, ?_⟩
    rw [List.forall_mem_append]
    exact ⟨hserved _ rfl, hall⟩
  | outside world _ ih =>
    obtain ⟨ys, hrest, hall⟩ := ih
    exact ⟨ys, ⟨hrest.exchanges, hrest.accounts⟩, hall⟩

/-- A run that keeps books asks for accounts only, and for nothing once it is not served; if it
returns something, then all its requests have been served. -/
theorem Books.asks {x : Run (StateM (Recorded σ)) α} {done : List Reservation → α → Prop}
    {stop : List Reservation → RunError → Prop} (h : Books x done stop)
    {s s₁ : Moment (Recorded σ)} {r : Except RunError α} (run : Run.runFrom x s = (r, s₁)) :
    ∃ asked, Asks s s₁ asked ∧ Quiet asked ∧
      ∀ a, r = .ok a → ∀ x ∈ asked, x.served = true := by
  cases r with
  | ok a =>
    obtain ⟨rs, steps, -⟩ := h.of_ok run
    obtain ⟨asked, hasks, hserved⟩ := steps.asks
    exact ⟨asked, hasks, .of_served hserved, fun _ _ => hserved⟩
  | error e =>
    rcases h.of_error run with ⟨rs, steps, -⟩ | ⟨rs, s₀, a, steps, last⟩
    · obtain ⟨asked, hasks, hserved⟩ := steps.asks
      exact ⟨asked, hasks, .of_served hserved, by simp⟩
    · obtain ⟨asked, hasks, hserved⟩ := steps.asks
      obtain ⟨more, hmore, hquiet, -⟩ := last.asks
      exact ⟨asked ++ more, hasks.trans hmore, .append hserved hquiet, by simp⟩

/-- A run that is refused has asked for nothing. -/
theorem Books.asks_nothing {x : Run (StateM (Recorded σ)) α} {done : List Reservation → α → Prop}
    (h : Books x done Refuses) {s s₁ : Moment (Recorded σ)} {e : RunError}
    (run : Run.runFrom x s = (.error e, s₁)) (he : e.IsRefusal) :
    s₁.world.exchanges = s.world.exchanges := by
  rcases h.of_error run with ⟨rs, steps, rfl, -⟩ | ⟨rs, s₀, a, steps, last⟩
  · exact steps.of_nil.2
  · rcases last.error_cases with ⟨cause, rfl⟩ | rfl
    · exact he.elim
    · exact he.elim

/-! ### Runs that ask for nothing -/

/-- The run makes no request. -/
def Silent (x : Run (StateM (Recorded σ)) α) : Prop :=
  ∀ s, (Run.runFrom x s).2.world.exchanges = s.world.exchanges

theorem silent_pure (a : α) : Silent (σ := σ) (pure a) := fun _ => rfl

theorem silent_throw (e : RunError) : Silent (σ := σ) (α := α) (throw e) := fun _ => rfl

theorem silent_info (host : Host (StateM σ)) (text : String) :
    Silent (Run.act (host.recorded.info text)) := fun _ => rfl

theorem Silent.bind {β : Type} {x : Run (StateM (Recorded σ)) α}
    {f : α → Run (StateM (Recorded σ)) β} (h : Silent x) (hf : ∀ a, Silent (f a)) :
    Silent (x >>= f) := by
  intro s
  have hx := h s
  rcases hrun : Run.runFrom x s with ⟨r, s₁⟩
  rw [hrun] at hx
  cases r with
  | error e =>
    rw [Run.runFrom_bind_error hrun]
    exact hx
  | ok a =>
    rw [Run.runFrom_bind_ok hrun]
    exact (hf a s₁).trans hx

/-! ### Sending -/

/-- The transaction that an exchange hands to the network. -/
def Exchange.handed : Exchange → Option Signed
  | .submit t _ => some t
  | _ => none

/-- The transactions that have been handed to the network one by one, in order. -/
def handed (exchanges : List Exchange) : List Signed := exchanges.filterMap (·.handed)

/-- What the network has answered to them. -/
def answers (exchanges : List Exchange) : List (Except NetworkFault String) :=
  exchanges.filterMap fun
    | .submit _ answer => some answer
    | _ => none

theorem handed_append (xs ys : List Exchange) : handed (xs ++ ys) = handed xs ++ handed ys :=
  List.filterMap_append

theorem answers_append (xs ys : List Exchange) : answers (xs ++ ys) = answers xs ++ answers ys :=
  List.filterMap_append

/-- Requests for accounts hand nothing to the network. -/
theorem Asks.handed {s s₁ : Moment (Recorded σ)} {asked : List Exchange} (h : Asks s s₁ asked) :
    handed asked = [] ∧ answers asked = [] := by
  constructor
  all_goals
    refine List.filterMap_eq_nil_iff.2 fun x hx => ?_
    obtain ⟨a, answer, rfl⟩ := h.accounts x hx
    rfl

/-- Sending a transaction leaves the ledger as it is, wherever the world goes. -/
theorem Ledger.submit {before : NonceTable} {s : Moment (Recorded σ)} {spent : List Reservation}
    (h : Ledger before s spent) (world : σ) (t : Signed) (answer : Except NetworkFault String) :
    Ledger before ⟨s.table, ⟨world, s.world.exchanges ++ [.submit t answer]⟩⟩ spent := by
  intro a
  have hnothing : firstFetched a [.submit t answer] = none := rfl
  rw [firstNonce, firstFetched_append, hnothing, Option.or_none]
  exact h a

/-- Numbers that count up from the first one known, without a gap; none if that is not known. -/
def Consecutive (first : Option UInt64) (nonces : List Nat) : Prop :=
  match first with
  | none => nonces = []
  | some n => nonces = List.range' n.toNat nonces.length

/-- The nonces of an account that were handed out before others count up from the first one. -/
theorem Tally.consecutive {first next : Option UInt64} {xs ys : List Nat}
    (h : Tally first next (xs ++ ys)) : Consecutive first xs := by
  generalize hall : xs ++ ys = all at h
  cases h with
  | unknown => exact (List.append_eq_nil_iff.1 hall).1
  | @counting n next count hnext =>
    have htake : (xs ++ ys).take xs.length = xs := List.take_left
    have hle : xs.length ≤ count := by
      have hlength := congrArg List.length hall
      rw [List.length_append, List.length_range'] at hlength
      omega
    rw [hall, List.take_range'_of_length_ge hle] at htake
    exact htake.symm

end ShardClient
