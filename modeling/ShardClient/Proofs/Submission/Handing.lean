/-
Handing transactions to the network.

One transaction or a batch is one request.  A batch is answered place by place: where there is a
hash the transaction was accepted, and where there is none it was rejected.  What is kept are
the accepted ones in order, whatever the answer is; transactions that the answer says nothing
about are not among them.  Besides, lines are logged, and nothing else is done.
-/
import ShardClient.Proofs.Run.Recording
import ShardClient.Submission

namespace ShardClient

variable {σ : Type}

/-! ### Logging -/

/-- The moment after lines have been logged, one by one. -/
def Moment.logged (s : Moment σ) (host : Host (StateM σ)) (lines : List LogLine) : Moment σ :=
  lines.foldl (fun s line => s.after (host.log line)) s

theorem Moment.logged_concat (host : Host (StateM σ)) (lines : List LogLine) (line : LogLine)
    (s : Moment σ) :
    s.logged host (lines ++ [line]) = (s.logged host lines).after (host.log line) :=
  List.foldl_append

/-- Logging makes no request. -/
theorem Moment.exchanges_logged (host : Host (StateM σ)) (lines : List LogLine)
    (s : Moment (Recorded σ)) :
    (s.logged host.recorded lines).world.exchanges = s.world.exchanges := by
  induction lines generalizing s with
  | nil => rfl
  | cons line lines ih => exact ih _

/-! ### Accepted and rejected -/

/-- The line that reports a transaction as rejected. -/
def rejection (t : Signed) : LogLine :=
  ⟨.warn, "rejected: transaction of " ++ t.sender.text ++ " with nonce " ++
    Decimal.text t.nonce.toNat⟩

/-- The line that counts what has been accepted. -/
def sentLine (accepted ts : Nat) : LogLine :=
  ⟨.info, "sent " ++ Decimal.text accepted ++ " of " ++ Decimal.text ts ++ " transactions"⟩

/-- An accepted transaction, if there is a hash for it. -/
def acceptedOf (p : Signed × Option String) : Option Accepted := p.2.map fun hash => ⟨p.1, hash⟩

/-- A rejected transaction, if there is no hash for it. -/
def rejectedOf (p : Signed × Option String) : Option Signed :=
  match p.2 with
  | some _ => none
  | none => some p.1

theorem acceptedOf_eq_some {p : Signed × Option String} {a : Accepted} :
    acceptedOf p = some a ↔ p = (a.transaction, some a.hash) := by
  obtain ⟨t, _ | hash⟩ := p
  · simp [acceptedOf]
  · cases a
    simp [acceptedOf]

namespace Courier

/-- Transactions with a hash are kept, and the others are reported one by one. -/
theorem run_keepAccepted (host : Host (StateM σ)) (pairs : List (Signed × Option String))
    (s : Moment σ) : Run.runFrom (keepAccepted host pairs) s
      = (.ok (pairs.filterMap acceptedOf),
          s.logged host ((pairs.filterMap rejectedOf).map rejection)) := by
  induction pairs generalizing s with
  | nil => rfl
  | cons p pairs ih =>
    obtain ⟨t, _ | hash⟩ := p
    · exact (Run.runFrom_bind_ok rfl).trans (ih _)
    · exact Run.runFrom_bind_ok (ih s)

/-- A batch is one request.  If it is answered then the transactions are paired with the answer, and
how many are accepted is reported behind those that are rejected. -/
theorem run_sendBatch (courier : Courier) (host : Host (StateM σ)) (ts : List Signed)
    (s : Moment σ) : Run.runFrom (courier.sendBatch host ts) s =
      match (host.network.submitBatch ts).run s.world with
      | (.error fault, world) => (.error (.network fault), ⟨s.table, world⟩)
      | (.ok hashes, world) =>
        let pairs := ts.zip hashes
        let accepted := pairs.filterMap acceptedOf
        (.ok accepted, Moment.logged ⟨s.table, world⟩ host
          ((pairs.filterMap rejectedOf).map rejection ++
            [sentLine accepted.length ts.length])) := by
  have hask := Run.runFrom_ask (host.network.submitBatch ts) s
  rcases hanswer : (host.network.submitBatch ts).run s.world with ⟨answer, world⟩
  rw [hanswer] at hask
  unfold sendBatch
  cases answer with
  | error fault => exact Run.runFrom_bind_error hask
  | ok hashes =>
    rw [Run.runFrom_bind_ok hask, Run.runFrom_bind_ok (run_keepAccepted host _ _)]
    show _ = (_, Moment.logged _ host (_ ++ [_]))
    rw [Moment.logged_concat]
    rfl

/-- The same over a host that is recorded: the request is what is added to the record. -/
theorem run_sendBatch_recorded (courier : Courier) (host : Host (StateM σ)) (ts : List Signed)
    (s : Moment (Recorded σ)) : Run.runFrom (courier.sendBatch host.recorded ts) s =
      match (host.network.submitBatch ts).run s.world.world with
      | (.error fault, world) => (.error (.network fault),
          ⟨s.table, ⟨world, s.world.exchanges ++ [.submitBatch ts (.error fault)]⟩⟩)
      | (.ok hashes, world) =>
        let pairs := ts.zip hashes
        let accepted := pairs.filterMap acceptedOf
        (.ok accepted, Moment.logged
          ⟨s.table, ⟨world, s.world.exchanges ++ [.submitBatch ts (.ok hashes)]⟩⟩ host.recorded
          ((pairs.filterMap rejectedOf).map rejection ++
            [sentLine accepted.length ts.length])) := by
  rcases hr : (host.network.submitBatch ts).run s.world.world with ⟨answer, world⟩
  have hrecorded : (host.recorded.network.submitBatch ts).run s.world
      = (answer, ⟨world, s.world.exchanges ++ [.submitBatch ts answer]⟩) := by
    rw [Host.recorded, record_run, hr]
  rw [run_sendBatch, hrecorded]
  cases answer with
  | error fault => rfl
  | ok hashes => rfl

end Courier

/-! ### Submissions -/

namespace Exchange

/-- The transactions that an exchange hands to the network, one or many. -/
def submitted : Exchange → List Signed
  | submit t _ => [t]
  | submitBatch ts _ => ts
  | _ => []

/-- Those of them that the network has accepted, with the hashes that it gave them. -/
def accepted : Exchange → List Accepted
  | submit t (.ok hash) => [⟨t, hash⟩]
  | submitBatch ts (.ok hashes) => (ts.zip hashes).filterMap acceptedOf
  | _ => []

/-- Why the network did not serve a request. -/
def refusal : Exchange → Option NetworkFault
  | account _ (.error fault) | submit _ (.error fault) | submitBatch _ (.error fault)
  | outcome _ _ (.error fault) => some fault
  | _ => none

/-- What is accepted has been submitted. -/
theorem mem_submitted {x : Exchange} {a : Accepted} (h : a ∈ x.accepted) :
    a.transaction ∈ x.submitted := by
  unfold accepted at h
  split at h
  · obtain rfl := List.mem_singleton.1 h
    exact List.mem_singleton_self _
  · obtain ⟨p, hp, ha⟩ := List.mem_filterMap.1 h
    obtain rfl := acceptedOf_eq_some.1 ha
    exact (List.of_mem_zip hp).1
  · simp at h

end Exchange

/-- Sending is one request, whatever the network answers. -/
theorem Courier.run_send (courier : Courier) (host : Host (StateM σ)) (t : Signed)
    (s : Moment (Recorded σ)) : ∃ answer world,
      Run.runFrom (courier.send host.recorded t) s = (Except.mapError RunError.network answer,
        ⟨s.table, ⟨world, s.world.exchanges ++ [.submit t answer]⟩⟩) := by
  have hask := Run.runFrom_ask (host.recorded.network.submit t) s
  rcases hr : (host.network.submit t).run s.world.world with ⟨answer, world⟩
  have hrecorded : (host.recorded.network.submit t).run s.world
      = (answer, ⟨world, s.world.exchanges ++ [.submit t answer]⟩) := by
    rw [Host.recorded, record_run, hr]
  rw [hrecorded] at hask
  unfold Courier.send
  cases answer with
  | error e => exact ⟨.error e, world, Run.runFrom_bind_error hask⟩
  | ok hash => exact ⟨.ok hash, _, Run.runFrom_bind_ok hask⟩

end ShardClient
