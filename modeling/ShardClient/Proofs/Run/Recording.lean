/-
Runs as functions, and runs that are recorded.

What is proved of runs is proved for every network.  A network is whatever answers requests out
of a state of its own, of any type, which each request may change; so nothing is assumed about
how an answer depends on the question, or on the questions before it.  To speak of what a run
asked and was told, the same network is put behind a recorder, which passes everything on and
writes down each exchange.
-/
import ShardClient.NonceTable

namespace ShardClient

/-! ### Runs as functions -/

/-- Where a run stands: the nonces, and the world outside. -/
structure Moment (σ : Type) where
  table : NonceTable
  world : σ

/-- The moment after something has been done outside. -/
def Moment.after {σ : Type} (s : Moment σ) (action : StateM σ Unit) : Moment σ :=
  ⟨s.table, (action.run s.world).2⟩

/-- A nonce that has been handed out, with its account. -/
abbrev Reservation := Address × UInt64

namespace Run

variable {σ α β : Type}

/-- What comes of a run that starts at some moment, and the moment at which it ends. -/
def runFrom (x : Run (StateM σ) α) (s : Moment σ) : Except RunError α × Moment σ :=
  let r := (x.run.run s.table).run s.world
  (r.1.1, ⟨r.1.2, r.2⟩)

theorem runFrom_pure (a : α) (s : Moment σ) :
    runFrom (pure a : Run (StateM σ) α) s = (.ok a, s) := rfl

theorem runFrom_throw (e : RunError) (s : Moment σ) :
    runFrom (throw e : Run (StateM σ) α) s = (.error e, s) := rfl

/-- A run goes on from where its first part ends, unless that fails. -/
theorem runFrom_bind (x : Run (StateM σ) α) (f : α → Run (StateM σ) β) (s : Moment σ) :
    runFrom (x >>= f) s =
      match runFrom x s with
      | (.ok a, s₁) => runFrom (f a) s₁
      | (.error e, s₁) => (.error e, s₁) := by
  show runFrom (ExceptT.mk (x.run >>= ExceptT.bindCont f)) s = _
  unfold runFrom
  rw [ExceptT.run_mk, StateT.run_bind, StateT.run_bind]
  rcases (x.run.run s.table).run s.world with ⟨⟨r, table⟩, world⟩
  cases r <;> rfl

theorem runFrom_bind_ok {x : Run (StateM σ) α} {f : α → Run (StateM σ) β} {s s₁ : Moment σ} {a : α}
    (h : runFrom x s = (.ok a, s₁)) : runFrom (x >>= f) s = runFrom (f a) s₁ := by
  rw [runFrom_bind, h]

theorem runFrom_bind_error {x : Run (StateM σ) α} {f : α → Run (StateM σ) β} {s s₁ : Moment σ}
    {e : RunError} (h : runFrom x s = (.error e, s₁)) : runFrom (x >>= f) s = (.error e, s₁) := by
  rw [runFrom_bind, h]

/-- A run goes on with what a lookup has found. -/
theorem runFrom_found {ε : Type} (wrap : ε → RunError) (a : α) (f : α → Run (StateM σ) β)
    (s : Moment σ) : runFrom (ofExcept wrap (.ok a) >>= f) s = runFrom (f a) s :=
  runFrom_bind_ok rfl

theorem runFrom_ask (request : StateM σ (Except NetworkFault α)) (s : Moment σ) :
    runFrom (ask request) s =
      ((request.run s.world).1.mapError RunError.network, ⟨s.table, (request.run s.world).2⟩) := by
  refine (runFrom_bind_ok (a := (request.run s.world).1) rfl).trans ?_
  cases (request.run s.world).1 <;> rfl

theorem runFrom_act (action : StateM σ α) (s : Moment σ) :
    runFrom (act action) s = (.ok (action.run s.world).1, ⟨s.table, (action.run s.world).2⟩) := rfl

end Run

/-! ### Recording -/

/-- A request to the network, with the answer. -/
inductive Exchange where
  | account (a : Address) (answer : Except NetworkFault AccountState)
  | submit (t : Signed) (answer : Except NetworkFault String)
  | submitBatch (ts : List Signed) (answer : Except NetworkFault (List (Option String)))
  | outcome (hash : String) (processStatus : Bool) (answer : Except NetworkFault Outcome)

/-- A world, and the exchanges with the network so far. -/
structure Recorded (σ : Type) where
  world : σ
  exchanges : List Exchange

/-- Passes a request on and writes the exchange down. -/
def record {σ α : Type} (exchange : Except NetworkFault α → Exchange)
    (request : StateM σ (Except NetworkFault α)) : StateM (Recorded σ) (Except NetworkFault α) :=
  fun s =>
    let (answer, world) := request.run s.world
    (answer, ⟨world, s.exchanges ++ [exchange answer]⟩)

theorem record_run {σ α : Type} (exchange : Except NetworkFault α → Exchange)
    (request : StateM σ (Except NetworkFault α)) (s : Recorded σ) :
    (record exchange request).run s =
      ((request.run s.world).1,
        ⟨(request.run s.world).2, s.exchanges ++ [exchange (request.run s.world).1]⟩) := rfl

/-- Does something that is no request. -/
def unrecorded {σ α : Type} (action : StateM σ α) : StateM (Recorded σ) α :=
  fun s =>
    let (a, world) := action.run s.world
    (a, ⟨world, s.exchanges⟩)

/-- The same host, with every request recorded. -/
def Host.recorded {σ : Type} (host : Host (StateM σ)) : Host (StateM (Recorded σ)) where
  network :=
    { account := fun a => record (.account a) (host.network.account a)
      submit := fun t => record (.submit t) (host.network.submit t)
      submitBatch := fun ts => record (.submitBatch ts) (host.network.submitBatch ts)
      outcome := fun hash processStatus =>
        record (.outcome hash processStatus) (host.network.outcome hash processStatus) }
  now := unrecorded host.now
  pause := fun d => unrecorded (host.pause d)
  log := fun line => unrecorded (host.log line)

/-- The nonce that an exchange tells of an account. -/
def Exchange.fetched (a : Address) : Exchange → Option UInt64
  | .account b (.ok state) => if b = a then some state.nonce else none
  | _ => none

/-- The nonce of an account when the network first told it. -/
def firstFetched (a : Address) (exchanges : List Exchange) : Option UInt64 :=
  exchanges.findSome? (·.fetched a)

theorem firstFetched_append (a : Address) (xs ys : List Exchange) :
    firstFetched a (xs ++ ys) = (firstFetched a xs).or (firstFetched a ys) :=
  List.findSome?_append

end ShardClient
