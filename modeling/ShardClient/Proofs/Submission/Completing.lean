/-
Waiting for what the network completes.

Whether a wait ends well is up to the network and the clock.  The network concludes a transaction
if it answers each request for the outcome, sooner or later with a final one, and if the time is
not up before that.  It completes some transactions if it concludes each of them, whenever it comes
to be asked and whatever it has been asked before.  That waiting for them then returns their
outcomes is no assumption but what is found by following the polls.
-/
import ShardClient.Proofs.Submission.Handing
import ShardClient.Simulation.Network

namespace ShardClient

variable {σ : Type}

namespace Host

/-! ### What the network does -/

/-- The network concludes a transaction that is waited for since the time `start`, and meanwhile the
world changes from one state to another.  The outcome is asked for `polls` times at most.  Each
request is answered, the last one with a final outcome; and after an answer that is not final the
clock says that there is time left, and the run pauses. -/
inductive Concludes (host : Host (StateM σ)) (p : Patience) (hash : String) (start : Duration) :
    (polls : Nat) → σ → σ → Prop
  | final {polls : Nat} {w w₁ : σ} {outcome : Outcome}
    (answered : (host.network.outcome hash true).run w = (.ok outcome, w₁))
    (h : outcome.status.isFinal = true) : Concludes host p hash start (polls + 1) w w₁
  | pending {polls : Nat} {w w₁ w₂ w₃ : σ} {outcome : Outcome} {time : Duration}
    (answered : (host.network.outcome hash true).run w = (.ok outcome, w₁))
    (h : outcome.status.isFinal = false) (clock : host.now.run w₁ = (time, w₂))
    (inTime : time - start < p.timeout)
    (rest : Concludes host p hash start polls ((host.pause p.interval).run w₂).2 w₃) :
    Concludes host p hash start (polls + 1) w w₃

/-- The network completes the transactions: whenever the world is ready and the clock is read, each
of them is concluded, and then the world is ready again.  It is so after logging, too. -/
structure Completes (host : Host (StateM σ)) (p : Patience) (hashes : List String)
    (ready : σ → Prop) : Prop where
  log : ∀ line w, ready w → ready ((host.log line).run w).2
  concludes : ∀ hash ∈ hashes, ∀ w, ready w → ∃ w₁, ready w₁ ∧
    host.Concludes p hash (host.now.run w).1 p.maxPolls (host.now.run w).2 w₁

variable {host : Host (StateM σ)} {p : Patience} {hashes : List String} {ready : σ → Prop}

/-- Nothing is different for a run that is recorded. -/
theorem Concludes.recorded {hash : String} {start : Duration} {polls : Nat} {w w₁ : σ}
    (h : host.Concludes p hash start polls w w₁) (exchanges : List Exchange) :
    ∃ more, host.recorded.Concludes p hash start polls ⟨w, exchanges⟩ ⟨w₁, more⟩ := by
  have asked : ∀ {w w₁ : σ} {outcome : Outcome} (exchanges : List Exchange),
      (host.network.outcome hash true).run w = (.ok outcome, w₁) →
      (host.recorded.network.outcome hash true).run ⟨w, exchanges⟩
        = (.ok outcome, ⟨w₁, exchanges ++ [.outcome hash true (.ok outcome)]⟩) := by
    intro w w₁ outcome exchanges hanswered
    rw [Host.recorded, record_run, hanswered]
  have read : ∀ {w w₁ : σ} {time : Duration} (exchanges : List Exchange),
      host.now.run w = (time, w₁) →
      host.recorded.now.run ⟨w, exchanges⟩ = (time, ⟨w₁, exchanges⟩) := by
    intro w w₁ time exchanges hclock
    show ((host.now.run w).1, Recorded.mk (host.now.run w).2 exchanges) = _
    rw [hclock]
  induction h generalizing exchanges with
  | final answered h => exact ⟨_, .final (asked exchanges answered) h⟩
  | pending answered h clock inTime _ ih =>
    obtain ⟨more, hrest⟩ := ih (exchanges ++ _)
    exact ⟨more, .pending (asked exchanges answered) h (read _ clock) inTime hrest⟩

theorem Completes.recorded (h : host.Completes p hashes ready) :
    host.recorded.Completes p hashes fun w => ready w.world where
  log line w hw := h.log line w.world hw
  concludes hash hhash w hw := by
    obtain ⟨w₁, hready, hconcludes⟩ := h.concludes hash hhash w.world hw
    obtain ⟨more, hrecorded⟩ := hconcludes.recorded w.exchanges
    exact ⟨⟨w₁, more⟩, hready, hrecorded⟩

theorem Completes.logged (h : host.Completes p hashes ready) (lines : List LogLine)
    {s : Moment σ} (hs : ready s.world) : ready (s.logged host lines).world := by
  induction lines generalizing s with
  | nil => exact hs
  | cons line lines ih => exact ih (h.log line s.world hs)

/-! ### What waiting returns -/

/-- Polling for a transaction that is concluded returns its final outcome. -/
theorem Concludes.poll {hash : String} {start : Duration} {polls : Nat} {w w₁ : σ}
    (h : host.Concludes p hash start polls w w₁) (table : NonceTable) :
    ∃ outcome, Run.runFrom (p.poll host hash start polls) ⟨table, w⟩
      = (.ok outcome, ⟨table, w₁⟩) := by
  have asked : ∀ {w w₁ : σ} {outcome : Outcome},
      (host.network.outcome hash true).run w = (.ok outcome, w₁) →
      Run.runFrom (Run.ask (host.network.outcome hash true)) ⟨table, w⟩
        = (.ok outcome, ⟨table, w₁⟩) := by
    intro w w₁ outcome hanswered
    rw [Run.runFrom_ask, hanswered]
    rfl
  induction h with
  | @final polls w w₁ outcome answered h =>
    refine ⟨outcome, ?_⟩
    rw [Patience.poll, Run.runFrom_bind_ok (asked answered), if_pos h]
    rfl
  | @pending polls w w₁ w₂ w₃ outcome time answered h clock inTime _ ih =>
    obtain ⟨last, hrest⟩ := ih
    refine ⟨last, ?_⟩
    have hopen : ¬outcome.status.isFinal = true := by
      rw [h]
      exact Bool.false_ne_true
    have hnow : Run.runFrom (Run.act host.now) ⟨table, w₁⟩ = (.ok time, ⟨table, w₂⟩) := by
      rw [Run.runFrom_act, clock]
    have hpause : Run.runFrom (Run.act (host.pause p.interval)) ⟨table, w₂⟩
        = (.ok (), ⟨table, ((host.pause p.interval).run w₂).2⟩) := rfl
    rw [Patience.poll, Run.runFrom_bind_ok (asked answered), if_neg hopen,
      Run.runFrom_bind_ok hnow]
    simp only [if_neg (Nat.not_le.2 inTime)]
    rw [Run.runFrom_bind_ok hpause, hrest]

variable {c : Courier}

/-- Waiting for one of the transactions returns, and leaves the world ready. -/
theorem Completes.awaitOne (h : host.Completes c.patience hashes ready) {hash : String}
    (hhash : hash ∈ hashes) {s : Moment σ} (hs : ready s.world) :
    ∃ outcome s₁, Run.runFrom (c.awaitOne host hash) s = (.ok outcome, s₁) ∧ ready s₁.world := by
  obtain ⟨w₁, hready, hconcludes⟩ := h.concludes hash hhash s.world hs
  obtain ⟨outcome, hpoll⟩ := hconcludes.poll s.table
  have hnow : Run.runFrom (Run.act host.now) s
      = (.ok (host.now.run s.world).1, ⟨s.table, (host.now.run s.world).2⟩) := rfl
  have hawait : Run.runFrom (c.patience.await host hash) s = (.ok outcome, ⟨s.table, w₁⟩) := by
    unfold Patience.await
    rw [Run.runFrom_bind_ok hnow, hpoll]
  unfold Courier.awaitOne
  rw [Run.runFrom_bind_ok hawait]
  exact ⟨outcome, _, rfl, h.log _ w₁ hready⟩

/-- One after another can be waited for. -/
theorem Completes.mapM_awaitOne (h : host.Completes c.patience hashes ready)
    {accepted : List Accepted} (haccepted : ∀ a ∈ accepted, a.hash ∈ hashes) {s : Moment σ}
    (hs : ready s.world) : ∃ outcomes s₁,
      Run.runFrom (accepted.mapM fun a => c.awaitOne host a.hash) s = (.ok outcomes, s₁) := by
  induction accepted generalizing s with
  | nil => exact ⟨[], s, rfl⟩
  | cons a accepted ih =>
    rw [List.forall_mem_cons] at haccepted
    obtain ⟨outcome, s₁, hfirst, hs₁⟩ := h.awaitOne haccepted.1 hs
    obtain ⟨outcomes, s₂, hrest⟩ := ih haccepted.2 hs₁
    refine ⟨outcome :: outcomes, s₂, ?_⟩
    rw [List.mapM_cons, Run.runFrom_bind_ok hfirst, Run.runFrom_bind_ok hrest]
    rfl

/-- **Waiting for what the network completes returns.** -/
theorem Completes.awaitAll (h : host.Completes c.patience hashes ready)
    {accepted : List Accepted} (haccepted : ∀ a ∈ accepted, a.hash ∈ hashes) {s : Moment σ}
    (hs : ready s.world) :
    ∃ outcomes s₁, Run.runFrom (c.awaitAll host accepted) s = (.ok outcomes, s₁) := by
  obtain ⟨outcomes, s₁, hrun⟩ :=
    h.mapM_awaitOne haccepted (s := s.after (host.info _)) (h.log _ s.world hs)
  exact ⟨outcomes, s₁, (Run.runFrom_bind_ok rfl).trans hrun⟩

end Host

end ShardClient
