/-
Forgetting all that is not a request.

A run that is watched tells more than one that is recorded: besides the exchanges it tells the
readings of the clock, the pauses and the log.  Nothing else is different.  If a run is the
same on a watched host and on a recorded one, then it returns the same, and the record is what
is left of all that was seen when the rest is forgotten.  So what has been found out about waiting
can be said of requests alone.
-/
import ShardClient.Proofs.Run.Watching

namespace ShardClient

variable {σ α β : Type}

/-- The exchange, if it is one. -/
def Occurrence.exchange? {ε : Type} : Occurrence ε → Option ε
  | exchange x => some x
  | _ => none

/-- The exchanges among what has happened. -/
def exchangesOf {ε : Type} (seen : List (Occurrence ε)) : List ε := seen.filterMap (·.exchange?)

section

variable {ε : Type}

theorem exchangesOf_append (xs ys : List (Occurrence ε)) :
    exchangesOf (xs ++ ys) = exchangesOf xs ++ exchangesOf ys :=
  List.filterMap_append

theorem exchangesOf_map (xs : List ε) : exchangesOf (xs.map .exchange) = xs := by
  rw [exchangesOf, List.filterMap_map]
  exact List.filterMap_some

theorem exchangesOf_flatMap {τ : Type} (ts : List τ) (part : τ → List (Occurrence ε)) :
    exchangesOf (ts.flatMap part) = ts.flatMap fun t => exchangesOf (part t) :=
  List.filterMap_flatMap

end

/-- The moment as a record has it. -/
def Moment.recorded (s : Moment (Watched Exchange σ)) : Moment (Recorded σ) :=
  ⟨s.table, ⟨s.world.world, exchangesOf s.world.seen⟩⟩

/-- Any record is what is left of something seen. -/
theorem Moment.exists_recorded (s : Moment (Recorded σ)) :
    ∃ w : Moment (Watched Exchange σ), w.recorded = s := by
  refine ⟨⟨s.table, ⟨s.world.world, s.world.exchanges.map .exchange⟩⟩, ?_⟩
  rw [recorded, exchangesOf_map]

/-! ### Actions -/

/-- The second action does the same as the first, and leaves the same record. -/
def ForgetsAction (x : StateM (Watched Exchange σ) α) (y : StateM (Recorded σ) α) : Prop :=
  ∀ w, y.run ⟨w.world, exchangesOf w.seen⟩
    = ((x.run w).1, ⟨(x.run w).2.world, exchangesOf (x.run w).2.seen⟩)

theorem forgets_request (exchange : Except NetworkFault α → Exchange)
    (request : StateM σ (Except NetworkFault α)) :
    ForgetsAction (watch (fun r => .exchange (exchange r)) request) (record exchange request) := by
  intro w
  rw [record_run]
  show _ = (_, Recorded.mk _ (exchangesOf (w.seen ++ [.exchange (exchange _)])))
  rw [exchangesOf_append]
  rfl

/-- What is no request leaves no record. -/
theorem forgets_other (occurrence : α → Occurrence Exchange) (action : StateM σ α)
    (h : ∀ a, (occurrence a).exchange? = none) :
    ForgetsAction (watch occurrence action) (unrecorded action) := by
  intro w
  show (_, Recorded.mk _ (exchangesOf w.seen))
    = (_, Recorded.mk _ (exchangesOf (w.seen ++ [occurrence _])))
  rw [exchangesOf_append]
  show _ = (_, Recorded.mk _ (_ ++ [occurrence _].filterMap _))
  rw [List.filterMap_cons_none (h _), List.filterMap_nil, List.append_nil]
  rfl

/-! ### Runs -/

/-- The second run does the same as the first, and leaves the same record. -/
def Forgets (x : Run (StateM (Watched Exchange σ)) α) (y : Run (StateM (Recorded σ)) α) : Prop :=
  ∀ s, Run.runFrom y s.recorded = ((Run.runFrom x s).1, (Run.runFrom x s).2.recorded)

theorem forgets_pure (a : α) : Forgets (σ := σ) (pure a) (pure a) := fun _ => rfl

theorem forgets_throw (e : RunError) : Forgets (σ := σ) (α := α) (throw e) (throw e) :=
  fun _ => rfl

theorem ForgetsAction.ask {x : StateM (Watched Exchange σ) (Except NetworkFault α)}
    {y : StateM (Recorded σ) (Except NetworkFault α)} (h : ForgetsAction x y) :
    Forgets (Run.ask x) (Run.ask y) := by
  intro s
  rw [Run.runFrom_ask, Run.runFrom_ask, Moment.recorded, h s.world]
  rfl

theorem ForgetsAction.act {x : StateM (Watched Exchange σ) α} {y : StateM (Recorded σ) α}
    (h : ForgetsAction x y) : Forgets (Run.act x) (Run.act y) := by
  intro s
  rw [Run.runFrom_act, Run.runFrom_act, Moment.recorded, h s.world]
  rfl

variable {x : Run (StateM (Watched Exchange σ)) α} {y : Run (StateM (Recorded σ)) α}

theorem Forgets.bind {f : α → Run (StateM (Watched Exchange σ)) β}
    {g : α → Run (StateM (Recorded σ)) β} (h : Forgets x y) (hf : ∀ a, Forgets (f a) (g a)) :
    Forgets (x >>= f) (y >>= g) := by
  intro s
  have hy := h s
  rcases hx : Run.runFrom x s with ⟨r, s₁⟩
  rw [hx] at hy
  cases r with
  | error e => rw [Run.runFrom_bind_error hx, Run.runFrom_bind_error hy]
  | ok a =>
    rw [Run.runFrom_bind_ok hx, Run.runFrom_bind_ok hy]
    exact hf a s₁

theorem Forgets.mapM {f : β → Run (StateM (Watched Exchange σ)) α}
    {g : β → Run (StateM (Recorded σ)) α} (h : ∀ b, Forgets (f b) (g b)) (items : List β) :
    Forgets (items.mapM f) (items.mapM g) := by
  induction items with
  | nil =>
    rw [List.mapM_nil, List.mapM_nil]
    exact forgets_pure []
  | cons b items ih =>
    rw [List.mapM_cons, List.mapM_cons]
    exact (h b).bind fun a => ih.bind fun rest => forgets_pure (a :: rest)

end ShardClient
