/-
Runs that keep books.

`Books x done stop` says of a run what it hands out, whatever the network answers.  From any
moment the run hands out some nonces, one after another, and then one of three things is the
case: it is finished, and `done` holds of the nonces and the result; it stops by itself, and
`stop` holds of the nonces and the error; or the next nonce could not be reserved, and that is
its error.  The rules follow the ways in which runs are put together, so each function needs
one statement, which its callers use without looking inside.
-/
import Mathlib.Data.List.Forall2
import ShardClient.Proofs.Run.Ledger

namespace ShardClient

variable {σ α β : Type}

/-- How a run that keeps books goes from a moment on. -/
inductive Booked (x : Run (StateM (Recorded σ)) α) (done : List Reservation → α → Prop)
    (stop : List Reservation → RunError → Prop) (s : Moment (Recorded σ)) : Prop
  | finished {rs : List Reservation} {s₁ : Moment (Recorded σ)} {a : α} (steps : Steps s rs s₁)
    (run : Run.runFrom x s = (.ok a, s₁)) (h : done rs a)
  | stopped {rs : List Reservation} {s₁ : Moment (Recorded σ)} {e : RunError}
    (steps : Steps s rs s₁) (run : Run.runFrom x s = (.error e, s₁)) (h : stop rs e)
  | blocked {rs : List Reservation} {s₁ s₂ : Moment (Recorded σ)} {a : Address} {e : RunError}
    (steps : Steps s rs s₁) (last : Reserved a s₁ (.error e) s₂)
    (run : Run.runFrom x s = (.error e, s₂))

/-- The run keeps books: `done` holds of what it hands out and returns when it is finished,
`stop` of what it hands out and the error when it stops by itself. -/
def Books (x : Run (StateM (Recorded σ)) α) (done : List Reservation → α → Prop)
    (stop : List Reservation → RunError → Prop) : Prop :=
  ∀ s, Booked x done stop s

variable {x : Run (StateM (Recorded σ)) α} {f : α → Run (StateM (Recorded σ)) β}
  {done done' : List Reservation → α → Prop} {stop stop' : List Reservation → RunError → Prop}

/-! ### Rules -/

theorem Books.mono (h : Books x done stop) (hdone : ∀ rs a, done rs a → done' rs a)
    (hstop : ∀ rs e, stop rs e → stop' rs e) : Books x done' stop' := by
  intro s
  cases h s with
  | finished steps run h => exact .finished steps run (hdone _ _ h)
  | stopped steps run h => exact .stopped steps run (hstop _ _ h)
  | blocked steps last run => exact .blocked steps last run

theorem books_pure {a : α} (h : done [] a) : Books (pure a : Run (StateM (Recorded σ)) α) done stop :=
  fun s => .finished (.refl s) (Run.runFrom_pure a s) h

theorem books_throw {e : RunError} (h : stop [] e) :
    Books (throw e : Run (StateM (Recorded σ)) α) done stop :=
  fun s => .stopped (.refl s) (Run.runFrom_throw e s) h

theorem books_reserveNonce (host : Host (StateM σ)) (a : Address)
    {done : List Reservation → UInt64 → Prop} (h : ∀ n, done [(a, n)] n) :
    Books (reserveNonce host.recorded a) done stop := by
  intro s
  have hreserved := reserved_reserveNonce host a s
  rcases hr : Run.runFrom (reserveNonce host.recorded a) s with ⟨r, s₁⟩
  rw [hr] at hreserved
  cases r with
  | ok n => exact .finished (.reserve hreserved (.refl s₁)) hr (h n)
  | error e => exact .blocked (.refl s) hreserved hr

/-- Logging hands nothing out. -/
theorem books_info (host : Host (StateM σ)) (text : String) {done : List Reservation → Unit → Prop}
    (h : done [] ()) : Books (Run.act (host.recorded.info text)) done stop :=
  fun s => .finished (.outside _ (.refl _)) (Run.runFrom_act (host.recorded.info text) s) h

/-- A run keeps the books of what follows a lookup that finds something. -/
theorem Books.found {ε : Type} {wrap : ε → RunError} {a : α} {done : List Reservation → β → Prop}
    (h : Books (f a) done stop) : Books (Run.ofExcept wrap (.ok a) >>= f) done stop := by
  intro s
  have hfound := Run.runFrom_found wrap a f s
  cases h s with
  | finished steps run h => exact .finished steps (hfound.trans run) h
  | stopped steps run h => exact .stopped steps (hfound.trans run) h
  | blocked steps last run => exact .blocked steps last (hfound.trans run)

/-- A lookup that finds nothing stops the run. -/
theorem books_notFound {ε : Type} {wrap : ε → RunError} {e : ε}
    {done : List Reservation → β → Prop} (h : stop [] (wrap e)) :
    Books (Run.ofExcept wrap (.error e) >>= f) done stop :=
  fun s => .stopped (.refl s) (Run.runFrom_bind_error (Run.runFrom_throw (wrap e) s)) h

/-- What is handed out by the first part of a run comes before what is handed out by the rest. -/
theorem Books.bind {done' : List Reservation → β → Prop} (h : Books x done stop)
    (hstop : ∀ rs e, stop rs e → stop' rs e)
    (hdone : ∀ rs a, done rs a →
      Books (f a) (fun qs b => done' (rs ++ qs) b) fun qs e => stop' (rs ++ qs) e) :
    Books (x >>= f) done' stop' := by
  intro s
  cases h s with
  | stopped steps run h => exact .stopped steps (Run.runFrom_bind_error run) (hstop _ _ h)
  | blocked steps last run => exact .blocked steps last (Run.runFrom_bind_error run)
  | @finished rs s₁ a steps run h =>
    have hrun := Run.runFrom_bind_ok (f := f) run
    cases hdone rs a h s₁ with
    | finished more rest h => exact .finished (steps.trans more) (hrun.trans rest) h
    | stopped more rest h => exact .stopped (steps.trans more) (hrun.trans rest) h
    | blocked more last rest => exact .blocked (steps.trans more) last (hrun.trans rest)

/-! ### Ends -/

/-- A run that has returned something is finished. -/
theorem Books.of_ok {s s₁ : Moment (Recorded σ)} {a : α} (h : Books x done stop)
    (run : Run.runFrom x s = (.ok a, s₁)) : ∃ rs, Steps s rs s₁ ∧ done rs a := by
  cases h s with
  | finished steps run' h =>
    rw [run] at run'
    cases run'
    exact ⟨_, steps, h⟩
  | stopped steps run' =>
    rw [run] at run'
    cases run'
  | blocked steps last run' =>
    rw [run] at run'
    cases run'

/-- A run that has ended with an error has stopped by itself, or a nonce could not be reserved. -/
theorem Books.of_error {s s₁ : Moment (Recorded σ)} {e : RunError} (h : Books x done stop)
    (run : Run.runFrom x s = (.error e, s₁)) :
    (∃ rs, Steps s rs s₁ ∧ stop rs e) ∨
      ∃ rs s₀ a, Steps s rs s₀ ∧ Reserved a s₀ (.error e) s₁ := by
  cases h s with
  | finished steps run' =>
    rw [run] at run'
    cases run'
  | stopped steps run' h =>
    rw [run] at run'
    cases run'
    exact .inl ⟨_, steps, h⟩
  | blocked steps last run' =>
    rw [run] at run'
    cases run'
    exact .inr ⟨_, _, _, steps, last⟩

/-- A run that keeps books keeps the ledger, whether it is finished or not. -/
theorem Ledger.books {before : NonceTable} {s s₁ : Moment (Recorded σ)} {spent : List Reservation}
    {r : Except RunError α} (hledger : Ledger before s spent) (h : Books x done stop)
    (run : Run.runFrom x s = (r, s₁)) :
    ∃ rs, Ledger before s₁ (spent ++ rs) ∧ ∀ a, r = .ok a → done rs a := by
  cases r with
  | ok a =>
    obtain ⟨rs, steps, hdone⟩ := h.of_ok run
    refine ⟨rs, hledger.steps steps, ?_⟩
    rintro _ ⟨⟩
    exact hdone
  | error e =>
    rcases h.of_error run with ⟨rs, steps, -⟩ | ⟨rs, s₀, a, steps, last⟩
    · exact ⟨rs, hledger.steps steps, by simp⟩
    · exact ⟨rs, (hledger.steps steps).blocked last, by simp⟩

/-! ### Refusals -/

/-- An error that is found beforehand. -/
def RunError.IsRefusal : RunError → Prop
  | .lookup _ | .pairing _ | .configuration _ | .code _ => True
  | _ => False

/-- Nothing has been handed out, and the error is one that is found beforehand. -/
def Refuses (rs : List Reservation) (e : RunError) : Prop := rs = [] ∧ e.IsRefusal

/-- The run does not stop by itself. -/
def Never (_ : List Reservation) (_ : RunError) : Prop := False

/-- Reading off a result hands nothing out. -/
theorem books_ofExcept {ε : Type} {wrap : ε → RunError} {r : Except ε α}
    (h : ∀ e, (wrap e).IsRefusal) :
    Books (Run.ofExcept wrap r : Run (StateM (Recorded σ)) α) (fun rs a => rs = [] ∧ r = .ok a)
      Refuses := by
  cases r with
  | ok a => exact books_pure ⟨rfl, rfl⟩
  | error e => exact books_throw ⟨rfl, h e⟩

/-- A run that may be refused, behind something that hands nothing out. -/
theorem Books.after {P : α → Prop} {done' : List Reservation → β → Prop}
    (h : Books x (fun rs a => rs = [] ∧ P a) Refuses) (hdone : ∀ a, P a → Books (f a) done' Refuses) :
    Books (x >>= f) done' Refuses := by
  refine h.bind (fun _ _ h => h) ?_
  rintro _ a ⟨rfl, ha⟩
  exact hdone a ha

/-- A run that no longer stops by itself, and what follows it. -/
theorem Books.andThen {done' : List Reservation → β → Prop} (h : Books x done Never)
    (hdone : ∀ rs a, done rs a → Books (f a) (fun qs b => done' (rs ++ qs) b) Never) :
    Books (x >>= f) done' Never :=
  h.bind (fun _ _ h => h) hdone

/-- A run that may be refused, and one behind it that no longer stops by itself. -/
theorem Books.committing {done' : List Reservation → β → Prop} (h : Books x done Refuses)
    (hdone : ∀ rs a, done rs a → Books (f a) (fun qs b => done' (rs ++ qs) b) Never) :
    Books (x >>= f) done' Refuses :=
  h.bind (fun _ _ h => h) fun rs a ha => (hdone rs a ha).mono (fun _ _ h => h) fun _ _ h => h.elim

theorem Books.refusing (h : Books x done Never) : Books x done Refuses :=
  h.mono (fun _ _ h => h) fun _ _ h => h.elim

/-- One item after another. -/
theorem books_mapM {items : List β} {g : β → Run (StateM (Recorded σ)) α}
    {given : α → List Reservation} {P : β → α → Prop}
    (h : ∀ b ∈ items, Books (g b) (fun rs a => rs = given a ∧ P b a) Never) :
    Books (items.mapM g) (fun rs as => rs = as.flatMap given ∧ List.Forall₂ P items as) Never := by
  induction items with
  | nil =>
    rw [List.mapM_nil]
    exact books_pure ⟨rfl, .nil⟩
  | cons b items ih =>
    rw [List.mapM_cons]
    refine (h b List.mem_cons_self).andThen ?_
    rintro _ a ⟨rfl, ha⟩
    refine (ih fun c hc => h c (List.mem_cons_of_mem _ hc)).andThen ?_
    rintro _ as ⟨rfl, has⟩
    refine books_pure ⟨?_, .cons ha has⟩
    rw [List.append_nil, List.flatMap_cons]

end ShardClient
