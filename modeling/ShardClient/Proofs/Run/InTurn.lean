/-
Runs that go through a list of items, one after the other.

Such a run is known from what it does with one item.  If that can be described from every moment
on, then the whole run is a list of descriptions, each beginning where the one before it ended;
the first that is of a failure is the last.
-/
import ShardClient.Proofs.Run.Returns

namespace ShardClient

variable {σ α β τ ω : Type}

/-- Items are gone through one after another, each from where the one before it ended.  One that
fails is the last. -/
inductive InTurn (step : β → Moment σ → τ → Moment σ → Prop) (result : τ → Except RunError α) :
    List β → Moment σ → List τ → Moment σ → Prop
  | done (s : Moment σ) : InTurn step result [] s [] s
  | next {b : β} {bs : List β} {s s₁ s₂ : Moment σ} {t : τ} {ts : List τ} {a : α}
    (first : step b s t s₁) (h : result t = .ok a) (rest : InTurn step result bs s₁ ts s₂) :
    InTurn step result (b :: bs) s (t :: ts) s₂
  | stop {b : β} (bs : List β) {s s₁ : Moment σ} {t : τ} {e : RunError} (first : step b s t s₁)
    (h : result t = .error e) : InTurn step result (b :: bs) s [t] s₁

variable {step : β → Moment σ → τ → Moment σ → Prop} {result : τ → Except RunError α} {b : β}
  {bs : List β} {s s₁ : Moment σ} {ts : List τ}

/-- What is written down of each item, one behind the other, is written down of all. -/
theorem InTurn.written {written : Moment σ → List ω} {part : τ → List ω}
    (h : InTurn step result bs s ts s₁)
    (hpart : ∀ {b s t s₁}, step b s t s₁ → written s₁ = written s ++ part t) :
    written s₁ = written s ++ ts.flatMap part := by
  induction h with
  | done => exact (List.append_nil _).symm
  | next first _ _ ih => rw [ih, hpart first, List.append_assoc, List.flatMap_cons]
  | stop bs first _ => rw [hpart first, List.flatMap_cons, List.flatMap_nil, List.append_nil]

/-- Each item that is reached is described. -/
theorem InTurn.forall_mem {P : τ → Prop} (h : InTurn step result bs s ts s₁)
    (hpart : ∀ {b s t s₁}, step b s t s₁ → P t) : ∀ t ∈ ts, P t := by
  induction h with
  | done => simp
  | next first _ _ ih => exact List.forall_mem_cons.2 ⟨hpart first, ih⟩
  | stop bs first _ => exact List.forall_mem_singleton.2 (hpart first)

/-- The items that are reached are the first ones, in order. -/
theorem InTurn.prefix_map {f : β → ω} {g : τ → ω} (h : InTurn step result bs s ts s₁)
    (hitem : ∀ {b s t s₁}, step b s t s₁ → g t = f b) : ts.map g <+: bs.map f := by
  induction h with
  | done => exact List.prefix_refl _
  | next first _ _ ih =>
    rw [List.map_cons, List.map_cons, hitem first, List.prefix_cons_inj]
    exact ih
  | stop bs first =>
    rw [List.map_cons, List.map_cons, hitem first, List.prefix_cons_inj]
    exact List.nil_prefix

/-- Only the last one can fail. -/
theorem InTurn.ok_of_mem_dropLast (h : InTurn step result bs s ts s₁) :
    ∀ t ∈ ts.dropLast, ∃ a, result t = .ok a := by
  induction h with
  | done => simp
  | @next b bs s s₁ s₂ t ts a first hok rest ih =>
    cases ts with
    | nil => simp
    | cons t₂ ts =>
      rw [List.dropLast_cons_cons, List.forall_mem_cons]
      exact ⟨⟨a, hok⟩, ih⟩
  | stop => simp

/-- Results are returned only if all items have been reached, and then there is one of each. -/
theorem InTurn.complete {as : List α} (h : InTurn step result bs s ts s₁)
    (hresult : ts.mapM result = .ok as) :
    ts.length = bs.length ∧ List.Forall₂ (fun t a => result t = .ok a) ts as := by
  induction h generalizing as with
  | done =>
    obtain rfl : as = [] := by simpa [pure, Except.pure] using hresult.symm
    exact ⟨rfl, .nil⟩
  | @next b bs s s₁ s₂ t ts a first hok _ ih =>
    rw [List.mapM_cons, hok] at hresult
    cases hrest : ts.mapM result with
    | error e =>
      rw [hrest] at hresult
      simp [bind, Except.bind] at hresult
    | ok rest =>
      obtain rfl : a :: rest = as := by
        rw [hrest] at hresult
        simpa [bind, Except.bind, pure, Except.pure] using hresult
      obtain ⟨hlength, hall⟩ := ih hrest
      exact ⟨congrArg (· + 1) hlength, .cons hok hall⟩
  | stop bs first hfailed =>
    rw [List.mapM_cons, hfailed] at hresult
    simp [bind, Except.bind] at hresult

/-- **A run through a list is as its items are**, described one by one. -/
theorem inTurn_mapM {f : β → Run (StateM σ) α} (bs : List β) (s : Moment σ)
    (hstep : ∀ b ∈ bs, ∀ s, ∃ t, step b s t (Run.runFrom (f b) s).2 ∧
      (Run.runFrom (f b) s).1 = result t) :
    ∃ ts, InTurn step result bs s ts (Run.runFrom (bs.mapM f) s).2 ∧
      (Run.runFrom (bs.mapM f) s).1 = ts.mapM result := by
  induction bs generalizing s with
  | nil => exact ⟨[], .done s, rfl⟩
  | cons b bs ih =>
    rw [List.forall_mem_cons] at hstep
    obtain ⟨t, ht, hresult⟩ := hstep.1 s
    rcases hfirst : Run.runFrom (f b) s with ⟨r, s₁⟩
    rw [hfirst] at ht hresult
    obtain rfl : r = result t := hresult
    rw [List.mapM_cons]
    cases hr : result t with
    | error e =>
      rw [hr] at hfirst
      rw [Run.runFrom_bind_error hfirst]
      refine ⟨[t], .stop bs ht hr, ?_⟩
      rw [List.mapM_cons, hr]
      rfl
    | ok a =>
      rw [hr] at hfirst
      rw [Run.runFrom_bind_ok hfirst]
      obtain ⟨ts, hrest, hresults⟩ := ih s₁ hstep.2
      rcases hlater : Run.runFrom (bs.mapM f) s₁ with ⟨r₂, s₂⟩
      rw [hlater] at hrest hresults
      obtain rfl : r₂ = ts.mapM result := hresults
      refine ⟨t :: ts, ?_⟩
      rw [List.mapM_cons, hr]
      cases hrs : ts.mapM result with
      | error e =>
        rw [hrs] at hlater
        rw [Run.runFrom_bind_error hlater]
        exact ⟨.next ht hr hrest, rfl⟩
      | ok as =>
        rw [hrs] at hlater
        rw [Run.runFrom_bind_ok hlater]
        exact ⟨.next ht hr hrest, rfl⟩

end ShardClient
