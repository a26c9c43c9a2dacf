/-
Runs that agree unless one of them is cut short.

A run with a bound can be compared with one that has a greater bound: it does the same, unless it
stops because of the bound.  `Agrees` says so of two runs, for any class of errors that does not
count as being cut short, and its rules follow the ways in which runs are put together.
-/
import ShardClient.Proofs.Run.Recording

namespace ShardClient

variable {σ α β : Type}

/-- From any moment on: if the first run returns something, or stops with one of the errors, then
the second does just the same. -/
def Agrees (genuine : RunError → Prop) (x y : Run (StateM σ) α) : Prop :=
  ∀ s, (∀ e, (Run.runFrom x s).1 = .error e → genuine e) → Run.runFrom y s = Run.runFrom x s

variable {genuine : RunError → Prop}

theorem Agrees.refl (x : Run (StateM σ) α) : Agrees genuine x x := fun _ _ => rfl

/-- A run that is cut short agrees with any. -/
theorem agrees_throw {e : RunError} (h : ¬genuine e) (y : Run (StateM σ) α) :
    Agrees genuine (throw e) y := fun _ hall => absurd (hall e rfl) h

theorem Agrees.bind {x y : Run (StateM σ) α} {f g : α → Run (StateM σ) β}
    (h : Agrees genuine x y) (hf : ∀ a, Agrees genuine (f a) (g a)) :
    Agrees genuine (x >>= f) (y >>= g) := by
  intro s hall
  rcases hx : Run.runFrom x s with ⟨r, s₁⟩
  cases r with
  | error e =>
    rw [Run.runFrom_bind_error hx] at hall
    have hy : Run.runFrom y s = (.error e, s₁) := by
      rw [← hx]
      refine h s fun e' he' => hall e' ?_
      rw [hx] at he'
      cases he'
      rfl
    rw [Run.runFrom_bind_error hx, Run.runFrom_bind_error hy]
  | ok a =>
    rw [Run.runFrom_bind_ok hx] at hall
    have hy : Run.runFrom y s = (.ok a, s₁) := by
      rw [← hx]
      exact h s (by rw [hx]; simp)
    rw [Run.runFrom_bind_ok hx, Run.runFrom_bind_ok hy]
    exact hf a s₁ hall

theorem Agrees.mapM {f g : β → Run (StateM σ) α} (h : ∀ b, Agrees genuine (f b) (g b))
    (items : List β) : Agrees genuine (items.mapM f) (items.mapM g) := by
  induction items with
  | nil => exact .refl _
  | cons b items ih =>
    rw [List.mapM_cons, List.mapM_cons]
    exact (h b).bind fun a => ih.bind fun rest => .refl _

end ShardClient
