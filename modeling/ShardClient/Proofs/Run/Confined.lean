/-
Runs that keep to some of the accounts.

A run is confined to some accounts if the table matters to it only there, and is changed by it
only there.  What the network says of an account may not change meanwhile, or else it would
matter when the run takes place; so here the network is steady, though it may have anything to
say, and may fail for some accounts.

Two runs that are confined to different accounts do not notice each other.  Which of them comes
first is no matter: each comes to the same, and so does the table.  This also holds of runs that
fail on their way, with what they have reserved until then.
-/
import ShardClient.Proofs.Run.Upcoming

namespace ShardClient

variable {σ α β : Type}

/-! ### Confinement -/

/-- The tables are the same on some accounts. -/
def AgreeOn (own : Address → Prop) (t u : NonceTable) : Prop := ∀ a, own a → t.find? a = u.find? a

/-- The run keeps to some accounts, wherever it starts. -/
structure Confined (own : Address → Prop) (x : Run (StateM σ) α) : Prop where
  /-- What comes of it depends on the table at these accounts only. -/
  result : ∀ s t, AgreeOn own s.table t.table → (Run.runFrom x s).1 = (Run.runFrom x t).1
  /-- So does what the table is at these accounts afterwards. -/
  within : ∀ s t, AgreeOn own s.table t.table →
    AgreeOn own (Run.runFrom x s).2.table (Run.runFrom x t).2.table
  /-- At all others the table is as before. -/
  outside : ∀ s a, ¬own a → (Run.runFrom x s).2.table.find? a = s.table.find? a

variable {own : Address → Prop} {x : Run (StateM σ) α} {f : α → Run (StateM σ) β}

/-- A run that always comes to the same, and leaves the table alone. -/
theorem confined_of_fixed (r : Except RunError α)
    (h : ∀ s, (Run.runFrom x s).1 = r ∧ (Run.runFrom x s).2.table = s.table) : Confined own x where
  result s t _ := (h s).1.trans (h t).1.symm
  within s t agree := by
    rw [(h s).2, (h t).2]
    exact agree
  outside s a _ := by rw [(h s).2]

theorem confined_pure (a : α) : Confined own (pure a : Run (StateM σ) α) :=
  confined_of_fixed (.ok a) fun _ => ⟨rfl, rfl⟩

theorem confined_throw (e : RunError) : Confined own (throw e : Run (StateM σ) α) :=
  confined_of_fixed (.error e) fun _ => ⟨rfl, rfl⟩

theorem confined_act (action : StateM σ Unit) : Confined own (Run.act action) :=
  confined_of_fixed (.ok ()) fun _ => ⟨rfl, rfl⟩

theorem Confined.bind (hx : Confined own x) (hf : ∀ a, Confined own (f a)) :
    Confined own (x >>= f) := by
  -- From moments that agree, either both go on with the same value or both stop.
  have both : ∀ s t, AgreeOn own s.table t.table →
      (Run.runFrom (x >>= f) s).1 = (Run.runFrom (x >>= f) t).1 ∧
      AgreeOn own (Run.runFrom (x >>= f) s).2.table (Run.runFrom (x >>= f) t).2.table := by
    intro s t agree
    have hresult := hx.result s t agree
    have hwithin := hx.within s t agree
    rcases hs : Run.runFrom x s with ⟨r, s₁⟩
    rcases ht : Run.runFrom x t with ⟨q, t₁⟩
    rw [hs, ht] at hresult hwithin
    obtain rfl : r = q := hresult
    cases r with
    | error e =>
      rw [Run.runFrom_bind_error hs, Run.runFrom_bind_error ht]
      exact ⟨rfl, hwithin⟩
    | ok a =>
      rw [Run.runFrom_bind_ok hs, Run.runFrom_bind_ok ht]
      exact ⟨(hf a).result s₁ t₁ hwithin, (hf a).within s₁ t₁ hwithin⟩
  refine ⟨fun s t agree => (both s t agree).1, fun s t agree => (both s t agree).2, ?_⟩
  intro s a ha
  have houtside := hx.outside s a ha
  rcases hs : Run.runFrom x s with ⟨r, s₁⟩
  rw [hs] at houtside
  cases r with
  | error e =>
    rw [Run.runFrom_bind_error hs]
    exact houtside
  | ok b =>
    rw [Run.runFrom_bind_ok hs]
    exact ((hf b).outside s₁ a ha).trans houtside

/-! ### Reserving from a steady network -/

/-- What the network says of an account is always the same. -/
def Host.Steady (host : Host (StateM σ)) (answer : Address → Except NetworkFault AccountState) :
    Prop :=
  ∀ a w, ((host.network.account a).run w).1 = answer a

/-- What comes of a reservation if the network says `answer`, and what is next after it. -/
def reserveFrom (answer : Except NetworkFault AccountState) (a : Address) :
    Option UInt64 → Except RunError UInt64 × Option UInt64
  | some n => reserveNext a n
  | none =>
    match answer with
    | .ok state => reserveNext a state.nonce
    | .error e => (.error (.network e), none)

variable {host : Host (StateM σ)} {answer : Address → Except NetworkFault AccountState}
  {a : Address}

/-- A reservation reads the table at one place, and writes to it there only. -/
theorem Host.Steady.runFrom_reserveNonce (steady : host.Steady answer) (s : Moment σ) :
    (Run.runFrom (reserveNonce host a) s).1 = (reserveFrom (answer a) a (s.table.find? a)).1 ∧
    ∀ b, (Run.runFrom (reserveNonce host a) s).2.table.find? b
      = if b = a then (reserveFrom (answer a) a (s.table.find? a)).2 else s.table.find? b := by
  cases hnext : s.table.find? a with
  | some n => exact reserveNonce_of_ok (upcoming_of_find? hnext)
  | none =>
    have hfound : upcoming host a s = _ := upcoming_of_none hnext
    rw [steady a s.world] at hfound
    cases hanswer : answer a with
    | ok state =>
      rw [hanswer] at hfound
      exact reserveNonce_of_ok hfound
    | error e =>
      rw [hanswer] at hfound
      obtain ⟨world, hrefused⟩ := reserveNonce_of_error hfound
      rw [hrefused]
      refine ⟨rfl, fun b => ?_⟩
      by_cases hb : b = a
      · rw [if_pos hb, hb]
        exact hnext
      · rw [if_neg hb]

theorem Host.Steady.confined_reserveNonce (steady : host.Steady answer) (ha : own a) :
    Confined own (reserveNonce host a) where
  result s t agree := by
    rw [(steady.runFrom_reserveNonce s).1, (steady.runFrom_reserveNonce t).1, agree a ha]
  within s t agree b hb := by
    rw [(steady.runFrom_reserveNonce s).2, (steady.runFrom_reserveNonce t).2, agree a ha,
      agree b hb]
  outside s b hb := by
    have hne : b ≠ a := by
      rintro rfl
      exact hb ha
    exact find?_reserveNonce hne s

/-! ### Independence -/

variable {other : Address → Prop} {y : Run (StateM σ) β}

/-- A run does not notice another one before it that keeps to other accounts. -/
theorem Confined.result_after (hx : Confined own x) (hy : Confined other y)
    (disjoint : ∀ a, own a → ¬other a) (s : Moment σ) :
    (Run.runFrom x (Run.runFrom y s).2).1 = (Run.runFrom x s).1 :=
  hx.result _ s fun a ha => hy.outside s a (disjoint a ha)

/-- After both runs, an account has the next nonce that the run which keeps to it has left, or else
the one that it had. -/
theorem Confined.find?_after (hx : Confined own x) (hy : Confined other y)
    (disjoint : ∀ a, own a → ¬other a) (s : Moment σ) (a : Address) :
    (Run.runFrom x (Run.runFrom y s).2).2.table.find? a
      = (Run.runFrom y (Run.runFrom x s).2).2.table.find? a := by
  have howns : ∀ b, own b → (Run.runFrom y s).2.table.find? b = s.table.find? b :=
    fun b hb => hy.outside s b (disjoint b hb)
  have hothers : ∀ b, other b → (Run.runFrom x s).2.table.find? b = s.table.find? b :=
    fun b hb => hx.outside s b fun h => disjoint b h hb
  by_cases ha : own a
  · calc (Run.runFrom x (Run.runFrom y s).2).2.table.find? a
        = (Run.runFrom x s).2.table.find? a := hx.within _ s howns a ha
      _ = (Run.runFrom y (Run.runFrom x s).2).2.table.find? a :=
        (hy.outside _ a (disjoint a ha)).symm
  · have hkept : (Run.runFrom x (Run.runFrom y s).2).2.table.find? a
        = (Run.runFrom y s).2.table.find? a := hx.outside _ a ha
    rw [hkept]
    by_cases hb : other a
    · exact (hy.within _ s hothers a hb).symm
    · rw [hy.outside s a hb, hy.outside _ a hb, hx.outside s a ha]

end ShardClient
