/-
All that happens outside, in order.

When it matters what a run does between its requests, writing down the requests is not enough:
waiting depends on what the clock says, and a rejection is only logged.  So here everything is
written down that a run does outside, whatever is behind it.  The requests can be watched where
they are made, or where they go out as exchanges over HTTP.
-/
import ShardClient.Proofs.Run.Recording
import ShardClient.Workbench

namespace ShardClient

variable {ε σ α β : Type}

/-- Something that happens outside of a run. -/
inductive Occurrence (ε : Type) where
  | exchange (x : ε)
  /-- The clock is read. -/
  | clock (time : Duration)
  | pause (span : Duration)
  | line (l : LogLine)

/-- A world, and what has happened so far. -/
structure Watched (ε σ : Type) where
  world : σ
  seen : List (Occurrence ε)

/-! ### Watching actions -/

/-- Does something and writes down what has happened. -/
def watch (occurrence : α → Occurrence ε) (action : StateM σ α) : StateM (Watched ε σ) α :=
  fun w =>
    let (a, world) := action.run w.world
    (a, ⟨world, w.seen ++ [occurrence a]⟩)

/-- The same host, watched. -/
def Host.watched (host : Host (StateM σ)) : Host (StateM (Watched Exchange σ)) where
  network :=
    { account := fun a => watch (fun r => .exchange (.account a r)) (host.network.account a)
      submit := fun t => watch (fun r => .exchange (.submit t r)) (host.network.submit t)
      submitBatch := fun ts =>
        watch (fun r => .exchange (.submitBatch ts r)) (host.network.submitBatch ts)
      outcome := fun hash processStatus =>
        watch (fun r => .exchange (.outcome hash processStatus r))
          (host.network.outcome hash processStatus) }
  now := watch .clock host.now
  pause := fun d => watch (fun _ => .pause d) (host.pause d)
  log := fun l => watch (fun _ => .line l) (host.log l)

/-- A request that went out, with the body of the reply if there was one. -/
structure HttpExchange where
  request : HttpRequest
  reply : Option Bytes

/-- The same outside, watched where requests go out. -/
def Outside.watched (o : Outside (StateM σ)) : Outside (StateM (Watched HttpExchange σ)) where
  transport :=
    ⟨fun request => watch (fun reply => .exchange ⟨request, reply⟩) (o.transport.exchange request)⟩
  now := watch .clock o.now
  pause := fun d => watch (fun _ => .pause d) (o.pause d)
  log := fun l => watch (fun _ => .line l) (o.log l)

/-- The action returns `a`, and this is what happens meanwhile. -/
def Shows (action : StateM (Watched ε σ) α) (w : Watched ε σ) (a : α)
    (what : List (Occurrence ε)) : Prop :=
  ∃ world, action.run w = (a, ⟨world, w.seen ++ what⟩)

theorem shows_watch (occurrence : α → Occurrence ε) (action : StateM σ α) (w : Watched ε σ) :
    Shows (watch occurrence action) w (action.run w.world).1
      [occurrence (action.run w.world).1] :=
  ⟨_, rfl⟩

theorem shows_pure (a : α) (w : Watched ε σ) : Shows (pure a) w a [] :=
  ⟨w.world, by rw [List.append_nil]; rfl⟩

theorem Shows.map {action : StateM (Watched ε σ) α} {w : Watched ε σ} {a : α}
    {what : List (Occurrence ε)} (h : Shows action w a what) (f : α → β) :
    Shows (f <$> action) w (f a) what := by
  obtain ⟨world, hrun⟩ := h
  refine ⟨world, ?_⟩
  rw [StateT.run_map, hrun]
  rfl

/-- What happens in the first part comes before what happens in the rest. -/
theorem Shows.bind {action : StateM (Watched ε σ) α} {w : Watched ε σ} {a : α}
    {what : List (Occurrence ε)} (h : Shows action w a what) (β : Type) :
    ∃ world, ∀ {f : α → StateM (Watched ε σ) β} {b : β} {more : List (Occurrence ε)},
      Shows (f a) ⟨world, w.seen ++ what⟩ b more → Shows (action >>= f) w b (what ++ more) := by
  obtain ⟨world, hrun⟩ := h
  refine ⟨world, ?_⟩
  rintro f b more ⟨after, hrest⟩
  refine ⟨after, ?_⟩
  rw [StateT.run_bind, hrun]
  show (f a).run ⟨world, w.seen ++ what⟩ = _
  rw [hrest, List.append_assoc]

/-! ### Watching runs -/

/-- Just this happens between two moments, and no nonce is touched. -/
structure Happens (s : Moment (Watched ε σ)) (what : List (Occurrence ε))
    (s₁ : Moment (Watched ε σ)) : Prop where
  table : s₁.table = s.table
  seen : s₁.world.seen = s.world.seen ++ what

theorem Happens.nothing (s : Moment (Watched ε σ)) : Happens s [] s :=
  ⟨rfl, (List.append_nil _).symm⟩

theorem Happens.trans {s s₁ s₂ : Moment (Watched ε σ)} {what more : List (Occurrence ε)}
    (h : Happens s what s₁) (h₂ : Happens s₁ more s₂) : Happens s (what ++ more) s₂ :=
  ⟨by rw [h₂.table, h.table], by rw [h₂.seen, h.seen, List.append_assoc]⟩

theorem Shows.act {action : StateM (Watched ε σ) α} {s : Moment (Watched ε σ)} {a : α}
    {what : List (Occurrence ε)} (h : Shows action s.world a what) :
    ∃ s₁, Run.runFrom (Run.act action) s = (.ok a, s₁) ∧ Happens s what s₁ := by
  obtain ⟨world, hrun⟩ := h
  refine ⟨⟨s.table, ⟨world, s.world.seen ++ what⟩⟩, ?_, rfl, rfl⟩
  rw [Run.runFrom_act, hrun]

theorem Shows.ask {request : StateM (Watched ε σ) (Except NetworkFault α)}
    {s : Moment (Watched ε σ)} {answer : Except NetworkFault α} {what : List (Occurrence ε)}
    (h : Shows request s.world answer what) :
    ∃ s₁, Run.runFrom (Run.ask request) s = (answer.mapError .network, s₁) ∧
      Happens s what s₁ := by
  obtain ⟨world, hrun⟩ := h
  refine ⟨⟨s.table, ⟨world, s.world.seen ++ what⟩⟩, ?_, rfl, rfl⟩
  rw [Run.runFrom_ask, hrun]

end ShardClient
