/-
The nonces of a whole run of calls.

The ledger says of all nonces that have been handed out, also of those that were lost when a
call failed halfway, that they are consecutive.  The transactions that a run returns use some of
them, in the same order, and use all of them if no call has failed.
-/
import ShardClient.Proofs.Composer.Relays

namespace ShardClient

variable {σ : Type}

/-- Makes calls one after another, each of the composer at that time.  A call that fails does not
keep the next from being made. -/
def Call.performAll (host : Host (StateM σ)) :
    List (Composer × Call) → Moment σ → List (Except RunError (List Signed)) × Moment σ
  | [], s => ([], s)
  | (c, call) :: calls, s =>
    let first := Run.runFrom (call.perform c host) s
    let rest := performAll host calls first.2
    (first.1 :: rest.1, rest.2)

/-- The transactions that calls have returned, in order. -/
def returned (results : List (Except RunError (List Signed))) : List Signed :=
  results.flatMap fun r => r.toOption.getD []

/-- The nonces that calls have returned transactions for, with their accounts. -/
def used (results : List (Except RunError (List Signed))) : List Reservation :=
  (returned results).flatMap Signed.reservations

theorem used_ok (ts : List Signed) (results : List (Except RunError (List Signed))) :
    used (.ok ts :: results) = ts.flatMap Signed.reservations ++ used results := by
  rw [used, returned, List.flatMap_cons, List.flatMap_append]
  rfl

theorem used_error (e : RunError) (results : List (Except RunError (List Signed))) :
    used (.error e :: results) = used results := rfl

variable {before : NonceTable} {s : Moment (Recorded σ)} {spent : List Reservation}

/-- One call keeps the ledger.  If it does not fail, what is entered is what it returns. -/
theorem Ledger.call (h : Ledger before s spent) (host : Host (StateM σ)) (c : Composer)
    (call : Call) :
    ∃ rs, Ledger before (Run.runFrom (call.perform c host.recorded) s).2 (spent ++ rs) ∧
      ∀ ts, (Run.runFrom (call.perform c host.recorded) s).1 = .ok ts →
        rs = ts.flatMap Signed.reservations := by
  obtain ⟨rs, hledger, hdone⟩ := h.books (call.books c host) rfl
  exact ⟨rs, hledger, hdone⟩

/-- All calls keep the ledger.  What is returned is used in the order in which it was entered,
and if no call has failed then all that was entered is used. -/
theorem Ledger.calls (h : Ledger before s spent) (host : Host (StateM σ))
    (calls : List (Composer × Call)) :
    ∃ rs, Ledger before (Call.performAll host.recorded calls s).2 (spent ++ rs) ∧
      (used (Call.performAll host.recorded calls s).1).Sublist rs ∧
      ((∀ r ∈ (Call.performAll host.recorded calls s).1, r.isOk = true) →
        used (Call.performAll host.recorded calls s).1 = rs) := by
  induction calls generalizing s spent with
  | nil => exact ⟨[], by rwa [List.append_nil], .refl _, fun _ => rfl⟩
  | cons p calls ih =>
    obtain ⟨c, call⟩ := p
    obtain ⟨rs, hledger, hrs⟩ := h.call host c call
    obtain ⟨qs, hrest, hsub, hall⟩ := ih hledger
    rw [List.append_assoc] at hrest
    rw [Call.performAll]
    refine ⟨rs ++ qs, hrest, ?_⟩
    cases hr : (Run.runFrom (call.perform c host.recorded) s).1 with
    | ok ts =>
      rw [used_ok, ← hrs ts hr]
      refine ⟨(List.Sublist.refl rs).append hsub, fun hok => ?_⟩
      rw [hall (List.forall_mem_cons.1 hok).2]
    | error e =>
      rw [used_error]
      refine ⟨hsub.trans (List.sublist_append_right ..), fun hok => ?_⟩
      have hfailed := (List.forall_mem_cons.1 hok).1
      simp [Except.isOk, Except.toBool] at hfailed

/-! ### One account -/

theorem noncesOf_sublist (a : Address) {rs qs : List Reservation} (h : rs.Sublist qs) :
    (noncesOf a rs).Sublist (noncesOf a qs) :=
  (h.filter _).map _

/-- If no account uses a nonce twice, then nothing is used twice. -/
theorem nodup_of_noncesOf {rs : List Reservation} (h : ∀ a, (noncesOf a rs).Nodup) : rs.Nodup := by
  induction rs with
  | nil => exact .nil
  | cons r rs ih =>
    obtain ⟨a, n⟩ := r
    refine List.nodup_cons.2 ⟨fun hmem => ?_, ih fun b => ?_⟩
    · have ha := h a
      rw [noncesOf_cons_self, List.nodup_cons] at ha
      refine ha.1 (List.mem_map.2 ⟨(a, n), List.mem_filter.2 ⟨hmem, ?_⟩, rfl⟩)
      exact decide_eq_true rfl
    · exact (h b).sublist (noncesOf_sublist b (List.sublist_cons_self ..))

/-- **No nonce is used twice, and none is skipped unless a call fails.**  After any calls, from an
empty table and in any world: an account of which the network has told nothing is not in the
table, and no returned transaction is from it.  Of any other account the returned transactions
use increasing nonces, from the first one that the network has told up to the one in the table,
and without gaps if no call has failed. -/
theorem nonces_in_sequence {σ : Type} (host : Host (StateM σ)) (world : σ)
    (calls : List (Composer × Call)) :
    let run := Call.performAll host.recorded calls ⟨{}, ⟨world, []⟩⟩
    (used run.1).Nodup ∧ ∀ a,
      match firstFetched a run.2.world.exchanges with
      | none => run.2.table.find? a = none ∧ noncesOf a (used run.1) = []
      | some first => ∃ next, run.2.table.find? a = some next ∧ first ≤ next ∧
        (noncesOf a (used run.1)).Pairwise (· < ·) ∧
        (∀ n ∈ noncesOf a (used run.1), first.toNat ≤ n ∧ n < next.toNat) ∧
        ((∀ r ∈ run.1, r.isOk = true) →
          noncesOf a (used run.1) = List.range' first.toNat (next.toNat - first.toNat)) := by
  intro run
  obtain ⟨rs, hledger, hsub, hall⟩ := (ledger_start {} world).calls host calls
  have htally : ∀ a, Tally (firstFetched a run.2.world.exchanges) (run.2.table.find? a)
      (noncesOf a rs) := hledger
  have hincreasing : ∀ a, (noncesOf a (used run.1)).Pairwise (· < ·) :=
    fun a => (htally a).increasing.sublist (noncesOf_sublist a hsub)
  refine ⟨nodup_of_noncesOf fun a => (hincreasing a).imp fun h => Nat.ne_of_lt h, fun a => ?_⟩
  have ha := htally a
  have hsuba := noncesOf_sublist a hsub
  generalize hnonces : noncesOf a rs = nonces at ha hsuba
  generalize firstFetched a run.2.world.exchanges = told at ha
  generalize run.2.table.find? a = next at ha
  cases ha with
  | unknown => exact ⟨rfl, List.sublist_nil.1 hsuba⟩
  | @counting first next count hnext =>
    refine ⟨next, rfl, UInt64.le_iff_toNat_le.2 (by omega), hincreasing a, ?_, fun hok => ?_⟩
    · intro n hn
      have hmem := hsuba.subset hn
      rw [List.mem_range'_1] at hmem
      omega
    · rw [hall hok, hnonces, hnext, Nat.add_sub_cancel_left]

end ShardClient
