/-
Waiting for transactions, poll by poll.

A wait begins with a look at the clock and then asks again and again, as long as the outcomes are
not final and not late.  It ends with the first outcome that is final or late, or with an error.
This is said of any host that reports what happens outside; what one poll consists of is left to
the host, so it holds of requests as they are made and of exchanges over HTTP alike.
-/
import Mathlib.Data.List.Perm.Subperm
import ShardClient.Proofs.Run.InTurn
import ShardClient.Proofs.Run.Watching

namespace ShardClient

variable {ε σ : Type}

/-- What a poll for a hash can be: its answer, and the exchanges that it takes. -/
abbrev Polling (ε : Type) := String → Except NetworkFault Outcome → List ε → Prop

/-- The host reports all that happens outside while a run waits: `answers` says of a hash what
comes of asking for its outcome, and through which exchanges. -/
structure Reports (host : Host (StateM (Watched ε σ))) (answers : Polling ε) : Prop where
  now : ∀ w, ∃ time, Shows host.now w time [.clock time]
  pause : ∀ d w, Shows (host.pause d) w () [.pause d]
  log : ∀ l w, Shows (host.log l) w () [.line l]
  outcome : ∀ hash w, ∃ answer xs,
    Shows (host.network.outcome hash true) w answer (xs.map .exchange) ∧ answers hash answer xs

theorem Reports.info {host : Host (StateM (Watched ε σ))} {answers : Polling ε}
    (h : Reports host answers) (text : String) (w : Watched ε σ) :
    Shows (host.info text) w () [.line ⟨.info, text⟩] :=
  h.log ⟨.info, text⟩ w

/-! ### Waits -/

/-- An outcome, the exchanges that were made for it, and the time when it was there. -/
structure Poll (ε : Type) where
  exchanges : List ε
  outcome : Outcome
  time : Duration

/-- How a wait ends. -/
inductive Ending (ε : Type) where
  | final (exchanges : List ε) (outcome : Outcome)
  | refused (exchanges : List ε) (fault : NetworkFault)
  /-- The outcome is not final, and the time is up. -/
  | late (last : Poll ε)
  /-- It was asked as often as allowed. -/
  | spent

/-- A wait for a transaction: the time when it began, the polls that let it go on, and how it
ended. -/
structure Wait (ε : Type) where
  hash : String
  start : Duration
  polls : List (Poll ε)
  ending : Ending ε

/-- What happens in a poll that lets a wait go on. -/
def Poll.happened (interval : Duration) (q : Poll ε) : List (Occurrence ε) :=
  q.exchanges.map .exchange ++ [.clock q.time, .pause interval]

/-- What happens at the end of a wait. -/
def Ending.happened : Ending ε → List (Occurrence ε)
  | final exchanges _ => exchanges.map .exchange
  | refused exchanges _ => exchanges.map .exchange
  | late last => last.exchanges.map .exchange ++ [.clock last.time]
  | spent => []

namespace Wait

/-- What comes of a wait. -/
def result (w : Wait ε) : Except RunError Outcome :=
  match w.ending with
  | .final _ outcome => .ok outcome
  | .refused _ fault => .error (.network fault)
  | .late last => .error (.network (.timeout w.hash (last.time - w.start).seconds))
  | .spent => .error (.pollsExhausted w.hash)

/-- Only a wait that ends with a final outcome returns it. -/
theorem final_of_ok {w : Wait ε} {outcome : Outcome} (h : w.result = .ok outcome) :
    ∃ exchanges, w.ending = .final exchanges outcome := by
  unfold result at h
  cases hending : w.ending with
  | final exchanges found =>
    rw [hending] at h
    cases h
    exact ⟨exchanges, rfl⟩
  | refused => simp [hending] at h
  | late => simp [hending] at h
  | spent => simp [hending] at h

/-- The line that reports the end of a wait, if it has ended well. -/
def report (c : Courier) (w : Wait ε) : List (Occurrence ε) :=
  match w.ending with
  | .final _ _ => [.line ⟨.info, "Completed: " ++ c.link w.hash⟩]
  | _ => []

/-- What happens in a wait. -/
def happened (c : Courier) (w : Wait ε) : List (Occurrence ε) :=
  [.clock w.start] ++ (w.polls.flatMap (Poll.happened c.patience.interval) ++ w.ending.happened) ++
    w.report c

end Wait

section

variable (answers : Polling ε) (p : Patience) (hash : String) (start : Duration)

/-- The poll lets a wait go on. -/
structure Poll.Early (q : Poll ε) : Prop where
  answered : answers hash (.ok q.outcome) q.exchanges
  notFinal : q.outcome.status.isFinal = false
  inTime : q.time - start < p.timeout

/-- The wait may end so after some polls, of which at most `limit` are allowed. -/
inductive Ending.Fits (limit polls : Nat) : Ending ε → Prop
  | final {exchanges : List ε} {outcome : Outcome}
    (answered : answers hash (.ok outcome) exchanges) (h : outcome.status.isFinal = true)
    (hlimit : polls < limit) : Fits limit polls (.final exchanges outcome)
  | refused {exchanges : List ε} {fault : NetworkFault}
    (answered : answers hash (.error fault) exchanges) (hlimit : polls < limit) :
    Fits limit polls (.refused exchanges fault)
  | late {last : Poll ε} (answered : answers hash (.ok last.outcome) last.exchanges)
    (h : last.outcome.status.isFinal = false) (htime : p.timeout ≤ last.time - start)
    (hlimit : polls < limit) : Fits limit polls (.late last)
  | spent (hlimit : polls = limit) : Fits limit polls .spent

end

/-- One poll more, where one more is allowed. -/
theorem Ending.Fits.succ {answers : Polling ε} {p : Patience} {hash : String}
    {start : Duration} {limit polls : Nat} {ending : Ending ε}
    (h : ending.Fits answers p hash start limit polls) :
    ending.Fits answers p hash start (limit + 1) (polls + 1) := by
  cases h with
  | final answered h hlimit => exact .final answered h (Nat.succ_lt_succ hlimit)
  | refused answered hlimit => exact .refused answered (Nat.succ_lt_succ hlimit)
  | late answered h htime hlimit => exact .late answered h htime (Nat.succ_lt_succ hlimit)
  | spent hlimit => exact .spent (congrArg (· + 1) hlimit)

/-- The wait is one that can come about. -/
structure Wait.Fits (answers : Polling ε) (p : Patience) (w : Wait ε) : Prop where
  early : ∀ q ∈ w.polls, q.Early answers p w.hash w.start
  ending : w.ending.Fits answers p w.hash w.start p.maxPolls w.polls.length

/-- **Polls do not run out while the clock runs.**  If each poll finds it later than the one before,
then the time is up before so many polls have been made as there are units of time. -/
theorem Wait.Fits.not_spent {answers : Polling ε} {p : Patience} {w : Wait ε}
    (h : w.Fits answers p)
    (hclock : (w.start :: w.polls.map Poll.time).Pairwise (· < ·))
    (hlimit : p.timeout < p.maxPolls) : w.ending ≠ .spent := by
  intro hspent
  have hending := h.ending
  rw [hspent] at hending
  cases hending with
  | spent hcount =>
    obtain ⟨hlater, hincreasing⟩ := List.pairwise_cons.1 hclock
    have hwithin : w.polls.map Poll.time ⊆ List.range' w.start p.timeout := by
      intro time htime
      have hstart : w.start ≤ time := Nat.le_of_lt (hlater time htime)
      obtain ⟨q, hq, rfl⟩ := List.mem_map.1 htime
      rw [List.mem_range'_1]
      exact ⟨hstart, (Nat.sub_lt_iff_lt_add' hstart).1 (h.early q hq).inTime⟩
    have hlength := (List.subperm_of_subset (hincreasing.imp Nat.ne_of_lt) hwithin).length_le
    rw [List.length_map, List.length_range', hcount] at hlength
    exact absurd hlength (Nat.not_le.2 hlimit)

variable {host : Host (StateM (Watched ε σ))} {answers : Polling ε}

/-- Polling goes on through polls that are early, and ends. -/
theorem run_poll (h : Reports host answers) (p : Patience) (hash : String) (start : Duration)
    (limit : Nat) (s : Moment (Watched ε σ)) :
    ∃ (polls : List (Poll ε)) (ending : Ending ε) (s₁ : Moment (Watched ε σ)),
      Run.runFrom (p.poll host hash start limit) s
        = (Wait.result ⟨hash, start, polls, ending⟩, s₁) ∧
      Happens s (polls.flatMap (Poll.happened p.interval) ++ ending.happened) s₁ ∧
      (∀ q ∈ polls, q.Early answers p hash start) ∧
      ending.Fits answers p hash start limit polls.length := by
  induction limit generalizing s with
  | zero => exact ⟨[], .spent, s, rfl, .nothing s, by simp, .spent rfl⟩
  | succ limit ih =>
    obtain ⟨answer, xs, hshows, hanswers⟩ := h.outcome hash s.world
    obtain ⟨s₁, hask, hasked⟩ := hshows.ask
    unfold Patience.poll
    cases answer with
    | error fault =>
      rw [Run.runFrom_bind_error hask]
      exact ⟨[], .refused xs fault, s₁, rfl, hasked, by simp, .refused hanswers (by simp)⟩
    | ok outcome =>
      rw [Run.runFrom_bind_ok hask]
      by_cases hfinal : outcome.status.isFinal = true
      · rw [if_pos hfinal]
        exact ⟨[], .final xs outcome, s₁, rfl, hasked, by simp,
          .final hanswers hfinal (by simp)⟩
      rw [if_neg hfinal]
      have hopen : outcome.status.isFinal = false := by simpa using hfinal
      obtain ⟨time, hclock⟩ := h.now s₁.world
      obtain ⟨s₂, hnow, hread⟩ := hclock.act
      rw [Run.runFrom_bind_ok hnow]
      by_cases htime : p.timeout ≤ time - start
      · rw [if_pos htime]
        exact ⟨[], .late ⟨xs, outcome, time⟩, s₂, rfl, hasked.trans hread, by simp,
          .late hanswers hopen htime (by simp)⟩
      rw [if_neg htime]
      obtain ⟨s₃, hpause, hpaused⟩ := (h.pause p.interval s₂.world).act
      rw [Run.runFrom_bind_ok hpause]
      obtain ⟨polls, ending, s₄, hrest, hhappens, hearly, hfits⟩ := ih s₃
      refine ⟨⟨xs, outcome, time⟩ :: polls, ending, s₄, hrest, ?_, ?_, hfits.succ⟩
      · have hall := ((hasked.trans hread).trans hpaused).trans hhappens
        simpa [Poll.happened] using hall
      · rw [List.forall_mem_cons]
        exact ⟨⟨hanswers, hopen, Nat.lt_of_not_le htime⟩, hearly⟩

/-- The wait is for the transaction, and is what happens between two moments. -/
structure Waited (answers : Polling ε) (c : Courier) (a : Accepted) (s : Moment (Watched ε σ))
    (w : Wait ε) (s₁ : Moment (Watched ε σ)) : Prop where
  hash : w.hash = a.hash
  fits : w.Fits answers c.patience
  happens : Happens s (w.happened c) s₁

/-- **What is seen of waiting for one transaction is a wait.** -/
theorem waited_awaitOne (h : Reports host answers) (c : Courier) (a : Accepted)
    (s : Moment (Watched ε σ)) :
    ∃ w : Wait ε, Waited answers c a s w (Run.runFrom (c.awaitOne host a.hash) s).2 ∧
      (Run.runFrom (c.awaitOne host a.hash) s).1 = w.result := by
  obtain ⟨-, hash⟩ := a
  obtain ⟨start, hclock⟩ := h.now s.world
  obtain ⟨s₁, hnow, hread⟩ := hclock.act
  obtain ⟨polls, ending, s₂, hpoll, hpolled, hearly, hfits⟩ :=
    run_poll h c.patience hash start c.patience.maxPolls s₁
  have hawait : Run.runFrom (c.patience.await host hash) s
      = (Wait.result ⟨hash, start, polls, ending⟩, s₂) := by
    unfold Patience.await
    rw [Run.runFrom_bind_ok hnow]
    exact hpoll
  have hfit : Wait.Fits answers c.patience ⟨hash, start, polls, ending⟩ := ⟨hearly, hfits⟩
  have hwaited := hread.trans hpolled
  refine ⟨⟨hash, start, polls, ending⟩, ?_⟩
  unfold Courier.awaitOne
  cases ending with
  | final xs outcome =>
    obtain ⟨s₃, hlog, hlogged⟩ := (h.info ("Completed: " ++ c.link hash) s₂.world).act
    rw [Run.runFrom_bind_ok hawait, Run.runFrom_bind_ok hlog]
    exact ⟨⟨rfl, hfit, hwaited.trans hlogged⟩, rfl⟩
  | refused xs fault =>
    rw [Run.runFrom_bind_error hawait]
    exact ⟨⟨rfl, hfit, hwaited.trans (.nothing s₂)⟩, rfl⟩
  | late last =>
    rw [Run.runFrom_bind_error hawait]
    exact ⟨⟨rfl, hfit, hwaited.trans (.nothing s₂)⟩, rfl⟩
  | spent =>
    rw [Run.runFrom_bind_error hawait]
    exact ⟨⟨rfl, hfit, hwaited.trans (.nothing s₂)⟩, rfl⟩

/-! ### One after the other -/

/-- What is seen of waiting for transactions: waits for the first of them, in order, of which only
the last can have failed.  If outcomes are returned, then there is a wait for each transaction,
and they are the final ones. -/
structure Awaits (answers : Polling ε) (c : Courier) (accepted : List Accepted)
    (s : Moment (Watched ε σ)) (run : Except RunError (List Outcome) × Moment (Watched ε σ))
    (waits : List (Wait ε)) : Prop where
  fits : ∀ w ∈ waits, w.Fits answers c.patience
  inOrder : waits.map Wait.hash <+: accepted.map Accepted.hash
  ended : ∀ w ∈ waits.dropLast, ∃ outcome, w.result = .ok outcome
  result : run.1 = waits.mapM Wait.result
  complete : ∀ outcomes, run.1 = .ok outcomes →
    waits.map Wait.hash = accepted.map Accepted.hash ∧
    List.Forall₂ (fun w outcome => ∃ exchanges, w.ending = .final exchanges outcome) waits outcomes
  happens : Happens s (.line ⟨.info, "Awaiting completion of " ++ Decimal.text accepted.length ++
    " transactions..."⟩ :: waits.flatMap (Wait.happened c)) run.2
  unspent : c.patience.timeout < c.patience.maxPolls →
    ∀ w ∈ waits, (w.start :: w.polls.map Poll.time).Pairwise (· < ·) → w.ending ≠ .spent

/-- What happens with each item, one behind the other, happens with all. -/
theorem InTurn.happens {α β τ : Type} {step : β → Moment (Watched ε σ) → τ →
    Moment (Watched ε σ) → Prop} {result : τ → Except RunError α} {bs : List β}
    {s s₁ : Moment (Watched ε σ)} {ts : List τ} {part : τ → List (Occurrence ε)}
    (h : InTurn step result bs s ts s₁)
    (hpart : ∀ {b s t s₁}, step b s t s₁ → Happens s (part t) s₁) :
    Happens s (ts.flatMap part) s₁ := by
  induction h with
  | done s => exact .nothing s
  | next first _ _ ih => exact (hpart first).trans ih
  | stop bs first => exact (hpart first).trans (.nothing _)

theorem awaits_awaitAll (h : Reports host answers) (c : Courier) (accepted : List Accepted)
    (s : Moment (Watched ε σ)) :
    ∃ waits, Awaits answers c accepted s (Run.runFrom (c.awaitAll host accepted) s) waits := by
  obtain ⟨s₁, hlog, hlogged⟩ := (h.info ("Awaiting completion of " ++
    Decimal.text accepted.length ++ " transactions...") s.world).act
  obtain ⟨waits, hturns, hresult⟩ := inTurn_mapM accepted s₁
    fun a _ s => waited_awaitOne h c a s
  have hrun : Run.runFrom (c.awaitAll host accepted) s
      = Run.runFrom (accepted.mapM fun a => c.awaitOne host a.hash) s₁ :=
    Run.runFrom_bind_ok hlog
  rw [hrun]
  have horder := hturns.prefix_map Waited.hash
  have hfits : ∀ w ∈ waits, w.Fits answers c.patience := hturns.forall_mem Waited.fits
  refine ⟨waits, hfits, horder, hturns.ok_of_mem_dropLast, hresult, ?_,
    hlogged.trans (hturns.happens Waited.happens),
    fun hlimit w hw hclock => (hfits w hw).not_spent hclock hlimit⟩
  intro outcomes houtcomes
  rw [hresult] at houtcomes
  obtain ⟨hlength, hall⟩ := hturns.complete houtcomes
  refine ⟨horder.eq_of_length (by rw [List.length_map, List.length_map, hlength]), ?_⟩
  exact hall.imp fun w outcome => Wait.final_of_ok

end ShardClient
