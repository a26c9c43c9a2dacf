/-
What runs return.

Where it does not matter what a run asks or hands out, only its result is spoken of.  `Returns x P`
says that whatever the run returns, from any moment and in any world, satisfies `P`; of a run
that fails it says nothing.  The rules follow the ways in which runs are put together.
-/
import Mathlib.Data.List.Forall2
import ShardClient.Proofs.Run.Recording

namespace ShardClient

variable {σ α β : Type}

/-- A run that has returned something has first done so in its first part. -/
theorem Run.runFrom_bind_eq_ok {x : Run (StateM σ) α} {f : α → Run (StateM σ) β}
    {s s₂ : Moment σ} {b : β} (h : Run.runFrom (x >>= f) s = (.ok b, s₂)) :
    ∃ a s₁, Run.runFrom x s = (.ok a, s₁) ∧ Run.runFrom (f a) s₁ = (.ok b, s₂) := by
  rcases hx : Run.runFrom x s with ⟨r, s₁⟩
  cases r with
  | error e =>
    rw [Run.runFrom_bind_error hx] at h
    simp at h
  | ok a =>
    rw [Run.runFrom_bind_ok hx] at h
    exact ⟨a, s₁, rfl, h⟩

/-- A run that is seen to return something. -/
theorem Run.exists_of_isOk {x : Run (StateM σ) α} {s : Moment σ}
    (h : (Run.runFrom x s).1.isOk = true) : ∃ a s₁, Run.runFrom x s = (.ok a, s₁) := by
  rcases hx : Run.runFrom x s with ⟨r, s₁⟩
  rw [hx] at h
  cases r with
  | error e => simp [Except.isOk, Except.toBool] at h
  | ok a => exact ⟨a, s₁, rfl⟩

/-- Whatever the run returns satisfies `P`. -/
def Returns (x : Run (StateM σ) α) (P : α → Prop) : Prop :=
  ∀ s s₁ a, Run.runFrom x s = (.ok a, s₁) → P a

variable {x : Run (StateM σ) α} {f : α → Run (StateM σ) β} {P : α → Prop} {Q : β → Prop}

theorem Returns.mono (h : Returns x P) {P' : α → Prop} (hP : ∀ a, P a → P' a) : Returns x P' :=
  fun s s₁ a run => hP a (h s s₁ a run)

theorem returns_anything (x : Run (StateM σ) α) : Returns x fun _ => True :=
  fun _ _ _ _ => trivial

theorem returns_pure {a : α} (h : P a) : Returns (pure a : Run (StateM σ) α) P := by
  intro s s₁ b run
  rw [Run.runFrom_pure] at run
  cases run
  exact h

theorem returns_throw (e : RunError) : Returns (throw e : Run (StateM σ) α) P := by
  intro s s₁ a run
  rw [Run.runFrom_throw] at run
  cases run

theorem returns_ofExcept {ε : Type} {wrap : ε → RunError} {r : Except ε α} :
    Returns (Run.ofExcept wrap r : Run (StateM σ) α) fun a => r = .ok a := by
  cases r with
  | ok a => exact returns_pure rfl
  | error e => exact returns_throw (wrap e)

theorem Returns.bind (h : Returns x P) (hf : ∀ a, P a → Returns (f a) Q) : Returns (x >>= f) Q := by
  intro s s₂ b run
  obtain ⟨a, s₁, hx, hrest⟩ := Run.runFrom_bind_eq_ok run
  exact hf a (h s s₁ a hx) s₁ s₂ b hrest

/-- What follows decides, whatever the first part returns. -/
theorem returns_after (hf : ∀ a, Returns (f a) Q) : Returns (x >>= f) Q :=
  (returns_anything x).bind fun a _ => hf a

/-- One item after another. -/
theorem returns_mapM {items : List β} {g : β → Run (StateM σ) α} {R : β → α → Prop}
    (h : ∀ b ∈ items, Returns (g b) (R b)) : Returns (items.mapM g) (List.Forall₂ R items) := by
  induction items with
  | nil =>
    rw [List.mapM_nil]
    exact returns_pure .nil
  | cons b items ih =>
    rw [List.forall_mem_cons] at h
    rw [List.mapM_cons]
    exact h.1.bind fun a ha => (ih h.2).bind fun as has => returns_pure (.cons ha has)

/-- Of two lists side by side: whatever is in the first one has something beside it. -/
theorem exists_of_forall₂ {R : α → β → Prop} {as : List α} {bs : List β}
    (h : List.Forall₂ R as bs) : ∀ a ∈ as, ∃ b, R a b := by
  induction h with
  | nil => simp
  | cons hfirst _ ih => exact List.forall_mem_cons.2 ⟨⟨_, hfirst⟩, ih⟩

/-- The same, if it does not matter which item a result is of. -/
theorem returns_all {items : List β} {g : β → Run (StateM σ) α}
    (h : ∀ b ∈ items, Returns (g b) P) : Returns (items.mapM g) fun as => ∀ a ∈ as, P a := by
  have heach : Returns (items.mapM g) (List.Forall₂ (fun _ a => P a) items) := returns_mapM h
  refine heach.mono fun as has a ha => ?_
  obtain ⟨_, hP⟩ := exists_of_forall₂ has.flip a ha
  exact hP

end ShardClient
