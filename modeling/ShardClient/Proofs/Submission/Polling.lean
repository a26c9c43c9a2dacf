/-
Waiting over any network, and over a gateway.

What one poll is depends on the network.  Seen where requests are made it is one request; over a
gateway it is two exchanges, the second of which is made only after the first has succeeded and
alone says how far the transaction has come.  The number of polls is bounded only so that waiting
always ends; a bound that is not reached makes no difference.
-/
import ShardClient.Proofs.Gateway.Request
import ShardClient.Proofs.Run.Agreement
import ShardClient.Proofs.Submission.Waiting

namespace ShardClient

variable {ε σ : Type}

/-! ### Any network -/

/-- A poll is one request, and is answered as the request is. -/
def PolledOnce : Polling Exchange := fun hash answer xs => xs = [.outcome hash true answer]

theorem reports_watched (host : Host (StateM σ)) : Reports host.watched PolledOnce where
  now w := ⟨_, shows_watch Occurrence.clock host.now w⟩
  pause d w := shows_watch (fun _ => .pause d) (host.pause d) w
  log l w := shows_watch (fun _ => .line l) (host.log l) w
  outcome hash w := by
    have hshows := shows_watch (fun r => Occurrence.exchange (.outcome hash true r))
      (host.network.outcome hash true) w
    exact ⟨_, [.outcome hash true _], hshows, rfl⟩

/-! ### A gateway -/

namespace Gateway

/-- A poll over a gateway asks for the transaction, and then for how far its processing has come.
The second answer decides about the status, and is asked for only after the first has been
given. -/
inductive Polled (g : Gateway) (hash : String) :
    Except NetworkFault Outcome → List HttpExchange → Prop
  | first {fault : NetworkFault} {xs : List HttpExchange}
    (transaction : g.Requested ("transaction/" ++ hash ++ "?withResults=true") none
      Reply.transaction? (.error fault) xs) : Polled g hash (.error fault) xs
  | second {data : Reply.TransactionRecord} {x : HttpExchange} {fault : NetworkFault}
    {ys : List HttpExchange}
    (transaction : g.Requested ("transaction/" ++ hash ++ "?withResults=true") none
      Reply.transaction? (.ok data) [x])
    (processing : g.Requested ("transaction/" ++ hash ++ "/process-status") none
      Reply.status? (.error fault) ys) : Polled g hash (.error fault) (x :: ys)
  | both {data : Reply.TransactionRecord} {status : Status} {x y : HttpExchange}
    (transaction : g.Requested ("transaction/" ++ hash ++ "?withResults=true") none
      Reply.transaction? (.ok data) [x])
    (processing : g.Requested ("transaction/" ++ hash ++ "/process-status") none
      Reply.status? (.ok status) [y]) :
    Polled g hash (.ok { data.outcome hash with status := status }) [x, y]

theorem shows_outcome (g : Gateway) (o : Outside (StateM σ)) (hash : String)
    (w : Watched HttpExchange σ) :
    ∃ answer xs, Shows (g.outcome o.watched.transport hash true) w answer (xs.map .exchange) ∧
      g.Polled hash answer xs := by
  obtain ⟨xs, hfirst, hshows⟩ := requested_request g o
    ("transaction/" ++ hash ++ "?withResults=true") none Reply.transaction? w
  obtain ⟨world, hthen⟩ := hshows.bind (Except NetworkFault Outcome)
  generalize ((g.request o.transport ("transaction/" ++ hash ++ "?withResults=true") none
    Reply.transaction?).run w.world).1 = answer at hfirst hthen
  cases answer with
  | error fault =>
    refine ⟨.error fault, xs, ?_, .first hfirst⟩
    rw [← List.append_nil (List.map _ xs)]
    exact hthen (shows_pure _ _)
  | ok data =>
    obtain ⟨url, reply, rfl⟩ := hfirst.of_ok
    obtain ⟨ys, hsecond, hmore⟩ := requested_request g o
      ("transaction/" ++ hash ++ "/process-status") none Reply.status?
      ⟨world, w.seen ++ List.map Occurrence.exchange [⟨⟨url, none⟩, some reply⟩]⟩
    obtain ⟨after, hlast⟩ := hmore.bind (Except NetworkFault Outcome)
    generalize ((g.request o.transport ("transaction/" ++ hash ++ "/process-status") none
      Reply.status?).run _).1 = answer at hsecond hlast
    cases answer with
    | error fault =>
      refine ⟨.error fault, _, ?_, .second hfirst hsecond⟩
      refine hthen ?_
      rw [← List.append_nil (List.map _ ys)]
      exact hlast (shows_pure _ _)
    | ok status =>
      obtain ⟨url₂, reply₂, rfl⟩ := hsecond.of_ok
      refine ⟨.ok { data.outcome hash with status := status }, _, hthen ?_, .both hfirst hsecond⟩
      exact hlast (shows_pure _ _)

theorem reports_host (g : Gateway) (o : Outside (StateM σ)) :
    Reports (o.watched.host g) g.Polled where
  now w := ⟨_, shows_watch Occurrence.clock o.now w⟩
  pause d w := shows_watch (fun _ => .pause d) (o.pause d) w
  log l w := shows_watch (fun _ => .line l) (o.log l) w
  outcome hash w := shows_outcome g o hash w

end Gateway

/-! ### The bound on polls -/

/-- The courier with another bound on polls. -/
def Courier.upTo (c : Courier) (polls : Nat) : Courier :=
  { c with patience := { c.patience with maxPolls := polls } }

theorem poll_upTo {m : Type → Type} [Monad m] (c : Courier) (polls : Nat) (host : Host m)
    (hash : String) (start : Duration) (limit : Nat) :
    (c.upTo polls).patience.poll host hash start limit
      = c.patience.poll host hash start limit := by
  induction limit with
  | zero => rfl
  | succ limit ih =>
    rw [Patience.poll, Patience.poll, ih]
    rfl

/-- The error is not the want of polls. -/
def RunError.NotSpent (e : RunError) : Prop := ∀ hash, e ≠ .pollsExhausted hash

/-- Polling that has ended would have ended so with more polls. -/
theorem agrees_poll (p : Patience) (host : Host (StateM σ)) (hash : String) (start : Duration)
    {limit more : Nat} (hle : limit ≤ more) :
    Agrees RunError.NotSpent (p.poll host hash start limit) (p.poll host hash start more) := by
  induction limit generalizing more with
  | zero => exact agrees_throw (fun h => h hash rfl) _
  | succ limit ih =>
    obtain ⟨more, rfl⟩ : ∃ k, more = k + 1 := ⟨more - 1, by omega⟩
    unfold Patience.poll
    refine (Agrees.refl _).bind fun outcome => ?_
    by_cases hfinal : outcome.status.isFinal = true
    · rw [if_pos hfinal, if_pos hfinal]
      exact .refl _
    rw [if_neg hfinal, if_neg hfinal]
    refine (Agrees.refl _).bind fun now => ?_
    by_cases htime : p.timeout ≤ now - start
    · simp only [if_pos htime]
      exact .refl _
    simp only [if_neg htime]
    exact (Agrees.refl _).bind fun _ => ih (Nat.le_of_succ_le_succ hle)

theorem agrees_awaitOne (c : Courier) (host : Host (StateM σ)) (hash : String) {polls : Nat}
    (hle : c.patience.maxPolls ≤ polls) :
    Agrees RunError.NotSpent (c.awaitOne host hash) ((c.upTo polls).awaitOne host hash) := by
  have hawait : Agrees RunError.NotSpent (c.patience.await host hash)
      ((c.upTo polls).patience.await host hash) := by
    unfold Patience.await
    refine (Agrees.refl _).bind fun start => ?_
    rw [poll_upTo]
    exact agrees_poll c.patience host hash start hle
  unfold Courier.awaitOne
  exact hawait.bind fun outcome => .refl _

/-- **A bound on polls that is not reached makes no difference.** -/
theorem agrees_awaitAll (c : Courier) (host : Host (StateM σ)) (accepted : List Accepted)
    {polls : Nat} (hle : c.patience.maxPolls ≤ polls) :
    Agrees RunError.NotSpent (c.awaitAll host accepted)
      ((c.upTo polls).awaitAll host accepted) := by
  unfold Courier.awaitAll
  refine Agrees.bind (.refl _) fun _ => ?_
  refine Agrees.mapM ?_ accepted
  intro a
  exact agrees_awaitOne c host a.hash hle

/-! ### Waiting for all -/

/-- **Transactions are waited for in turn.**  From any moment on, and whatever the network and the
clock say, what is seen of waiting for transactions are waits for them in order: in each it is
asked for one transaction alone, until an outcome is final; with an error, or with an outcome
that is not final when the time is up, waiting ends altogether.  This holds of the requests over
any network; and over a gateway of the exchanges, two of which are made in a poll, so that the
second alone decides about the status.  The bound on polls makes no difference where it is not
reached; and it is not reached if it is above the time allowed and the clock runs on. -/
theorem awaited_in_turn (c : Courier) (accepted : List Accepted) :
    (∀ (host : Host (StateM σ)) (s : Moment (Watched Exchange σ)), ∃ waits,
      Awaits PolledOnce c accepted s (Run.runFrom (c.awaitAll host.watched accepted) s) waits) ∧
    (∀ (g : Gateway) (o : Outside (StateM σ)) (s : Moment (Watched HttpExchange σ)), ∃ waits,
      Awaits g.Polled c accepted s (Run.runFrom (c.awaitAll (o.watched.host g) accepted) s)
        waits) ∧
    ∀ (host : Host (StateM σ)) (s : Moment σ) (polls : Nat), c.patience.maxPolls ≤ polls →
      (∀ hash, (Run.runFrom (c.awaitAll host accepted) s).1 ≠ .error (.pollsExhausted hash)) →
      Run.runFrom ((c.upTo polls).awaitAll host accepted) s
        = Run.runFrom (c.awaitAll host accepted) s := by
  refine ⟨?_, ?_, ?_⟩
  · intro host s
    exact awaits_awaitAll (reports_watched host) c accepted s
  · intro g o s
    exact awaits_awaitAll (g.reports_host o) c accepted s
  · intro host s polls hle hnot
    refine agrees_awaitAll c host accepted hle s ?_
    rintro e he hash rfl
    exact hnot hash he

end ShardClient
