/-
What the record shows of waiting.

Of a wait the record keeps the requests: those of the polls that let it go on, and at most one
more, which ends it.  All of them ask for the same transaction, and only the last of a wait that
failed can have been left unserved.
-/
import ShardClient.Proofs.Run.Forgetting
import ShardClient.Proofs.Run.Requests
import ShardClient.Proofs.Submission.Polling

namespace ShardClient

variable {ε σ : Type}

/-! ### Watched and recorded -/

section

variable (host : Host (StateM σ))

theorem forgets_info (text : String) :
    Forgets (Run.act (host.watched.info text)) (Run.act (host.recorded.info text)) :=
  (forgets_other (fun _ => .line ⟨.info, text⟩) (host.log ⟨.info, text⟩) fun _ => rfl).act

theorem forgets_poll (p : Patience) (hash : String) (start : Duration) (limit : Nat) :
    Forgets (p.poll host.watched hash start limit) (p.poll host.recorded hash start limit) := by
  induction limit with
  | zero => exact forgets_throw (.pollsExhausted hash)
  | succ limit ih =>
    unfold Patience.poll
    refine (forgets_request (.outcome hash true) (host.network.outcome hash true)).ask.bind
      fun outcome => ?_
    by_cases hfinal : outcome.status.isFinal = true
    · rw [if_pos hfinal, if_pos hfinal]
      exact forgets_pure outcome
    rw [if_neg hfinal, if_neg hfinal]
    refine (forgets_other .clock host.now fun _ => rfl).act.bind fun now => ?_
    by_cases htime : p.timeout ≤ now - start
    · simp only [if_pos htime]
      exact forgets_throw _
    simp only [if_neg htime]
    exact (forgets_other (fun _ => .pause p.interval) (host.pause p.interval)
      fun _ => rfl).act.bind fun _ => ih

theorem forgets_awaitOne (c : Courier) (hash : String) :
    Forgets (c.awaitOne host.watched hash) (c.awaitOne host.recorded hash) := by
  have hawait : Forgets (c.patience.await host.watched hash)
      (c.patience.await host.recorded hash) :=
    (forgets_other .clock host.now fun _ => rfl).act.bind fun start =>
      forgets_poll host c.patience hash start c.patience.maxPolls
  unfold Courier.awaitOne
  exact hawait.bind fun outcome => (forgets_info host _).bind fun _ => forgets_pure outcome

/-- Waiting does the same and leaves the same record. -/
theorem forgets_awaitAll (c : Courier) (accepted : List Accepted) :
    Forgets (c.awaitAll host.watched accepted) (c.awaitAll host.recorded accepted) := by
  unfold Courier.awaitAll
  refine (forgets_info host _).bind fun _ => ?_
  refine Forgets.mapM ?_ accepted
  intro a
  exact forgets_awaitOne host c a.hash

end

/-! ### The exchanges of a wait -/

/-- The exchanges at the end of a wait. -/
def Ending.exchanges : Ending ε → List ε
  | final xs _ => xs
  | refused xs _ => xs
  | late last => last.exchanges
  | spent => []

/-- The exchanges of a wait, in order. -/
def Wait.exchanges (w : Wait ε) : List ε := w.polls.flatMap Poll.exchanges ++ w.ending.exchanges

theorem exchangesOf_poll (interval : Duration) (q : Poll ε) :
    exchangesOf (q.happened interval) = q.exchanges := by
  rw [Poll.happened, exchangesOf_append, exchangesOf_map]
  exact List.append_nil _

theorem exchangesOf_ending (ending : Ending ε) :
    exchangesOf ending.happened = ending.exchanges := by
  cases ending with
  | final xs outcome => exact exchangesOf_map xs
  | refused xs fault => exact exchangesOf_map xs
  | late last =>
    rw [Ending.happened, exchangesOf_append, exchangesOf_map]
    exact List.append_nil _
  | spent => rfl

theorem exchangesOf_wait (c : Courier) (w : Wait ε) :
    exchangesOf (w.happened c) = w.exchanges := by
  have hreport : exchangesOf (w.report c) = [] := by
    unfold Wait.report
    split <;> rfl
  rw [Wait.happened, exchangesOf_append, exchangesOf_append, exchangesOf_append, hreport,
    exchangesOf_flatMap, exchangesOf_ending, List.append_nil]
  simp only [exchangesOf_poll]
  rfl

/-- What is recorded of waiting for transactions: the requests of waits for the first of them, in
order, of which only the last can have failed. -/
structure Waits (c : Courier) (accepted : List Accepted) (s : Moment (Recorded σ))
    (run : Except RunError (List Outcome) × Moment (Recorded σ)) (waits : List (Wait Exchange)) :
    Prop where
  fits : ∀ w ∈ waits, w.Fits PolledOnce c.patience
  inOrder : waits.map Wait.hash <+: accepted.map Accepted.hash
  ended : ∀ w ∈ waits.dropLast, ∃ outcome, w.result = .ok outcome
  complete : ∀ outcomes, run.1 = .ok outcomes →
    waits.map Wait.hash = accepted.map Accepted.hash ∧
    ∀ w ∈ waits, ∃ outcome, w.result = .ok outcome
  exchanges : run.2.world.exchanges = s.world.exchanges ++ waits.flatMap Wait.exchanges

theorem waits_awaitAll (host : Host (StateM σ)) (c : Courier) (accepted : List Accepted)
    (s : Moment (Recorded σ)) :
    ∃ waits, Waits c accepted s (Run.runFrom (c.awaitAll host.recorded accepted) s) waits := by
  obtain ⟨w, rfl⟩ := s.exists_recorded
  rw [forgets_awaitAll host c accepted w]
  obtain ⟨waits, h⟩ := awaits_awaitAll (reports_watched host) c accepted w
  refine ⟨waits, h.fits, h.inOrder, h.ended, fun outcomes houtcomes => ?_, ?_⟩
  · obtain ⟨hhashes, hall⟩ := h.complete outcomes houtcomes
    refine ⟨hhashes, fun w hw => ?_⟩
    obtain ⟨outcome, xs, hending⟩ := exists_of_forall₂ hall w hw
    exact ⟨outcome, by rw [Wait.result, hending]⟩
  · show exchangesOf _ = exchangesOf _ ++ _
    rw [h.happens.seen, exchangesOf_append]
    show _ ++ exchangesOf (waits.flatMap (Wait.happened c)) = _
    rw [exchangesOf_flatMap]
    simp only [exchangesOf_wait]

/-! ### Requests of a wait -/

section

variable {p : Patience} {w : Wait Exchange}

/-- A poll that lets a wait go on is one request, which was served. -/
theorem Poll.Early.exchanges {hash : String} {start : Duration} {q : Poll Exchange}
    (h : q.Early PolledOnce p hash start) : q.exchanges = [.outcome hash true (.ok q.outcome)] :=
  h.answered

/-- The end of a wait takes one request at most. -/
theorem Ending.Fits.exchanges {hash : String} {start : Duration} {limit polls : Nat}
    {ending : Ending Exchange} (h : ending.Fits PolledOnce p hash start limit polls) :
    ending.exchanges = [] ∨ ∃ answer, ending.exchanges = [.outcome hash true answer] := by
  cases h with
  | final answered => exact .inr ⟨_, answered⟩
  | refused answered => exact .inr ⟨_, answered⟩
  | late answered => exact .inr ⟨_, answered⟩
  | spent => exact .inl rfl

/-- All requests of a wait ask for its transaction. -/
theorem Wait.Fits.asks (h : w.Fits PolledOnce p) :
    ∀ x ∈ w.exchanges, ∃ answer, x = .outcome w.hash true answer := by
  rw [Wait.exchanges, List.forall_mem_append]
  constructor
  · intro x hx
    obtain ⟨q, hq, hx⟩ := List.mem_flatMap.1 hx
    rw [(h.early q hq).exchanges, List.mem_singleton] at hx
    exact ⟨_, hx⟩
  · rcases h.ending.exchanges with hnone | ⟨answer, hone⟩
    · simp [hnone]
    · simp [hone]

/-- The requests of polls that let a wait go on were served. -/
theorem Wait.Fits.served_polls (h : w.Fits PolledOnce p) :
    ∀ x ∈ w.polls.flatMap Poll.exchanges, x.served = true := by
  intro x hx
  obtain ⟨q, hq, hx⟩ := List.mem_flatMap.1 hx
  rw [(h.early q hq).exchanges, List.mem_singleton] at hx
  rw [hx]
  rfl

/-- All requests of a wait that has ended well were served. -/
theorem Wait.Fits.served {outcome : Outcome} (h : w.Fits PolledOnce p)
    (hresult : w.result = .ok outcome) : ∀ x ∈ w.exchanges, x.served = true := by
  rw [Wait.exchanges, List.forall_mem_append]
  refine ⟨h.served_polls, ?_⟩
  obtain ⟨xs, hfinal⟩ := Wait.final_of_ok hresult
  have hending := h.ending
  rw [hfinal] at hending ⊢
  cases hending with
  | final answered =>
    obtain rfl : xs = [_] := answered
    exact List.forall_mem_singleton.2 rfl

/-- Nothing is asked in a wait behind a request that was not served. -/
theorem Wait.Fits.quiet (h : w.Fits PolledOnce p) : Quiet w.exchanges := by
  refine .append h.served_polls ?_
  rcases h.ending.exchanges with hnone | ⟨answer, hone⟩
  · rw [hnone]
    exact .nil
  · rw [hone]
    exact List.pairwise_singleton _ _

end

/-- Behind waits that have ended well another one may begin; nothing is asked behind a request
that was not served. -/
theorem quiet_waits {p : Patience} {waits : List (Wait Exchange)}
    (fits : ∀ w ∈ waits, w.Fits PolledOnce p)
    (ended : ∀ w ∈ waits.dropLast, ∃ outcome, w.result = .ok outcome) :
    Quiet (waits.flatMap Wait.exchanges) := by
  induction waits with
  | nil => exact .nil
  | cons w waits ih =>
    rw [List.forall_mem_cons] at fits
    cases waits with
    | nil =>
      rw [List.flatMap_cons, List.flatMap_nil, List.append_nil]
      exact fits.1.quiet
    | cons next rest =>
      rw [List.dropLast_cons_cons, List.forall_mem_cons] at ended
      obtain ⟨⟨outcome, hresult⟩, ended⟩ := ended
      exact .append (fits.1.served hresult) (ih fits.2 ended)

/-- If all waits have ended well, then all their requests were served. -/
theorem served_waits {p : Patience} {waits : List (Wait Exchange)}
    (fits : ∀ w ∈ waits, w.Fits PolledOnce p)
    (ended : ∀ w ∈ waits, ∃ outcome, w.result = .ok outcome) :
    ∀ x ∈ waits.flatMap Wait.exchanges, x.served = true := by
  intro x hx
  obtain ⟨w, hw, hx⟩ := List.mem_flatMap.1 hx
  obtain ⟨outcome, hresult⟩ := ended w hw
  exact (fits w hw).served hresult x hx

end ShardClient
