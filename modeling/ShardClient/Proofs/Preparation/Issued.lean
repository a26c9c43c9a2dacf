/-
The token that is issued is the one that the network announces.

What the network called the token is found out from the last reply about the transaction that
issues it: the one of the poll that ends the wait.  A second reply of the same poll says that the
transaction is done, and nothing of the token.  So issuing returns what is announced in what was
written of the transaction then, and if nothing is announced there it fails, even though the
transaction may have been successful.
-/
import ShardClient.Proofs.Gateway.Written
import ShardClient.Proofs.Preparation.Stages
import ShardClient.Proofs.Submission.Polling

namespace ShardClient

variable {σ : Type}

/-! ### The last poll of a wait -/

/-- Two exchanges that end a wait over a gateway: the first says what is written of the
transaction, and the second how its processing has ended. -/
structure Gateway.Concluded (g : Gateway) (hash : String) (written : Reply.WrittenTransaction)
    (status : Status) (x y : HttpExchange) : Prop where
  transaction : g.Requested ("transaction/" ++ hash ++ "?withResults=true") none
    Reply.writtenTransaction? (.ok written) [x]
  processing : g.Requested ("transaction/" ++ hash ++ "/process-status") none
    Reply.status? (.ok status) [y]
  final : status.isFinal = true

/-- The outcome that is meant by what is written of a transaction and the status of its
processing. -/
def Reply.WrittenTransaction.outcome (written : Reply.WrittenTransaction) (hash : String)
    (status : Status) : Outcome :=
  { written.record.outcome hash with status := status }

/-- A poll that is answered with a final outcome concludes the wait. -/
theorem Gateway.Polled.concluded {g : Gateway} {hash : String} {outcome : Outcome}
    {xs : List HttpExchange} (h : g.Polled hash (.ok outcome) xs)
    (hfinal : outcome.status.isFinal = true) :
    ∃ written status x y, xs = [x, y] ∧ outcome = written.outcome hash status ∧
      g.Concluded hash written status x y := by
  cases h with
  | both transaction processing =>
    rw [Reply.transaction?_eq] at transaction
    obtain ⟨written, rfl, hwritten⟩ := transaction.of_map
    exact ⟨written, _, _, _, rfl, rfl, hwritten, processing, hfinal⟩

/-- One transaction that is waited for well has one outcome, concluded by the last poll. -/
theorem Awaits.concluded {g : Gateway} {c : Courier} {a : Accepted}
    {s s₁ : Moment (Watched HttpExchange σ)} {outcomes : List Outcome}
    {waits : List (Wait HttpExchange)}
    (h : Awaits g.Polled c [a] s (.ok outcomes, s₁) waits) :
    ∃ wait written status x y, waits = [wait] ∧ outcomes = [written.outcome a.hash status] ∧
      wait.ending = .final [x, y] (written.outcome a.hash status) ∧
      g.Concluded a.hash written status x y := by
  obtain ⟨hhashes, hall⟩ := h.complete outcomes rfl
  obtain ⟨wait, rfl⟩ : ∃ wait, waits = [wait] :=
    List.length_eq_one_iff.1 (by simpa using congrArg List.length hhashes)
  have hhash : wait.hash = a.hash := by simpa using hhashes
  obtain ⟨outcome, rest, ⟨xs, hending⟩, hrest, rfl⟩ := List.forall₂_cons_left_iff.1 hall
  obtain rfl := List.forall₂_nil_left_iff.1 hrest
  have hfits := (h.fits wait (List.mem_singleton_self wait)).ending
  rw [hending, hhash] at hfits
  cases hfits with
  | final answered hfinal _ =>
    obtain ⟨written, status, x, y, rfl, rfl, hconcluded⟩ := answered.concluded hfinal
    exact ⟨wait, written, status, x, y, rfl, rfl, hending, hconcluded⟩

namespace Preparation

/-! ### Issuing -/

/-- What issuing returns, by what is written of the transaction in the end. -/
structure ReturnsAnnounced (written : Reply.WrittenTransaction) (hash : String) (status : Status)
    (r : Except RunError String) : Prop where
  identifier : ∀ identifier, r = .ok identifier ↔ written.Announces identifier
  succeeds : r.isOk = true ↔ ∃ e ∈ written.events, ∃ topic, e.Issues topic
  fails : (¬∃ e ∈ written.events, ∃ topic, e.Issues topic) →
    r = .error (.outcome (written.hash.getD hash) (.noIssuance status))

/-- From an outcome its first identifier is returned, if it has one. -/
theorem runFrom_issued (hash : String) (outcome : Outcome) (s : Moment σ) :
    Run.runFrom (issued hash [outcome]) s
      = ((Issuance.identifiers outcome).head?.elim
          (.error (.outcome outcome.hash (.noIssuance outcome.status))) .ok, s) := by
  unfold issued
  cases hall : Issuance.identifiers outcome with
  | nil =>
    simp only [hall]
    exact Run.runFrom_throw _ s
  | cons first rest =>
    simp only [hall]
    exact Run.runFrom_pure first s

/-- The first identifier is the token that is announced. -/
theorem returnsAnnounced (written : Reply.WrittenTransaction) (hash : String) (status : Status) :
    ReturnsAnnounced written hash status
      ((Issuance.identifiers (written.outcome hash status)).head?.elim
        (.error (.outcome (written.hash.getD hash) (.noIssuance status))) .ok) := by
  have hannounced (identifier : String) :
      (Issuance.identifiers (written.outcome hash status)).head? = some identifier ↔
        written.Announces identifier := written.head?_identifiers hash
  have hexists := written.exists_announces
  simp only [← hannounced] at hexists
  cases hhead : (Issuance.identifiers (written.outcome hash status)).head? with
  | none =>
    rw [hhead] at hexists
    refine ⟨fun identifier => ?_, ?_, fun _ => rfl⟩
    · simp [← hannounced, hhead]
    · simp [← hexists, Except.isOk, Except.toBool]
  | some first =>
    rw [hhead] at hexists
    refine ⟨fun identifier => ?_, ?_, fun hnone => absurd (hexists.1 ⟨first, rfl⟩) hnone⟩
    · simp [← hannounced, hhead]
    · simp [← hexists, Except.isOk, Except.toBool]

/-- **The token that is issued is the one that the network announces.**  Whatever has been handed
out before, and whatever is replied, issuing goes through building the transaction, sending it
and waiting for it, and fails as the first of these that fails.  If the wait ends well then its
last two exchanges say what is written of the transaction and how its processing has ended.
Issuing succeeds if an event of issuance with a topic is written in one of the logs, and returns
what the first of them has for its first topic: the events of the transaction itself come before
those of the contracts, and a topic that is not base64 counts as an empty one.  Otherwise the
error has the hash that is written of the transaction, or that it was given if none is
written. -/
theorem issued_as_announced (g : Gateway) (o : Outside (StateM σ)) (c : Composer)
    (courier : Courier) (name : String) (s : Moment (Watched HttpExchange σ)) :
    let host := o.watched.host g
    let run := Run.runFrom (issue c courier host name) s
    match Run.runFrom (c.issuance host name) s with
    | (.error e, after) => run = (.error e, after)
    | (.ok t, built) =>
      match Run.runFrom (courier.send host t) built with
      | (.error e, after) => run = (.error e, after)
      | (.ok hash, sent) =>
        match Run.runFrom (courier.awaitAll host [⟨t, hash⟩]) sent with
        | (.error e, after) => run = (.error e, after)
        | (.ok outcomes, after) =>
          run.2 = after ∧
          ∃ wait written status x y,
            Awaits g.Polled courier [⟨t, hash⟩] sent (.ok outcomes, after) [wait] ∧
            wait.ending = .final [x, y] (written.outcome hash status) ∧
            g.Concluded hash written status x y ∧
            ReturnsAnnounced written hash status run.1 := by
  intro host run
  have hissue : run = Run.runFrom (c.issuance host name >>= fun t => courier.send host t >>=
      fun hash => courier.awaitAll host [⟨t, hash⟩] >>= issued hash) s := rfl
  rw [hissue]
  rcases hbuild : Run.runFrom (c.issuance host name) s with ⟨_ | t, built⟩
  · exact Run.runFrom_bind_error hbuild
  rw [Run.runFrom_bind_ok hbuild]
  dsimp only
  rcases hsend : Run.runFrom (courier.send host t) built with ⟨_ | hash, sent⟩
  · exact Run.runFrom_bind_error hsend
  rw [Run.runFrom_bind_ok hsend]
  dsimp only
  obtain ⟨waits, hawaits⟩ := awaits_awaitAll (g.reports_host o) courier [⟨t, hash⟩] sent
  rcases hawait : Run.runFrom (courier.awaitAll host [⟨t, hash⟩]) sent with ⟨_ | outcomes, after⟩
  · exact Run.runFrom_bind_error hawait
  rw [Run.runFrom_bind_ok hawait]
  rw [hawait] at hawaits
  obtain ⟨wait, written, status, x, y, rfl, rfl, hending, hconcluded⟩ := hawaits.concluded
  rw [runFrom_issued]
  exact ⟨rfl, wait, written, status, x, y, hawaits, hending, hconcluded,
    returnsAnnounced written hash status⟩

end Preparation

end ShardClient
