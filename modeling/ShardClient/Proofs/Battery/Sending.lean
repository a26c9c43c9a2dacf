/-
A run of the battery, scenario by scenario.

Of a scenario that has been tried one of two things is left: an error and the requests made until
then, or a transaction that was handed to the network, with the requests made for it and the
answer.  A run is a list of such attempts, each beginning where the one before it ended, and the
first that fails is the last.

The nonces follow from the ledger.  All that is handed out is consecutive, and what a failed
build has handed out comes last, because the run ends there; so what was sent before is
consecutive too.
-/
import ShardClient.Proofs.Battery.Building
import ShardClient.Proofs.Run.InTurn
import ShardClient.Proofs.Run.Requests
import ShardClient.Proofs.Submission.Handing

namespace ShardClient

namespace Battery

variable {σ : Type}

/-! ### One scenario -/

/-- What became of a scenario. -/
inductive Attempt where
  /-- Its transaction could not be built.  `asked` was asked of the network before. -/
  | unbuilt (asked : List Exchange) (cause : RunError)
  /-- Its transaction was handed to the network, which gave the answer. -/
  | sent (asked : List Exchange) (t : Signed) (answer : Except NetworkFault String)

namespace Attempt

/-- All that passed between the run and the network. -/
def exchanges : Attempt → List Exchange
  | unbuilt asked _ => asked
  | sent asked t answer => asked ++ [.submit t answer]

/-- The transactions that were handed to the network. -/
def transactions : Attempt → List Signed
  | unbuilt _ _ => []
  | sent _ t _ => [t]

/-- What comes of the scenario. -/
def result : Attempt → Except RunError String
  | unbuilt _ cause => .error cause
  | sent _ _ answer => answer.mapError .network

end Attempt

/-- A scenario is tried: it is announced and its transaction built, for which accounts are asked
for; and if that succeeds, just this transaction is handed to the network.  A build that is
refused, as by a lookup that fails, asks for nothing. -/
inductive Tried (host : Host (StateM σ)) (sc : Scenario (StateM (Recorded σ)))
    (s : Moment (Recorded σ)) : Attempt → Moment (Recorded σ) → Prop
  | unbuilt {asked : List Exchange} {e : RunError} {s₁ : Moment (Recorded σ)}
    (build : Run.runFrom sc.build (s.after (host.recorded.info sc.title)) = (.error e, s₁))
    (asks : Asks s s₁ asked) (quiet : Quiet asked) (refused : e.IsRefusal → asked = []) :
    Tried host sc s (.unbuilt asked e) s₁
  | sent {asked : List Exchange} {t : Signed} {s₁ : Moment (Recorded σ)}
    (build : Run.runFrom sc.build (s.after (host.recorded.info sc.title)) = (.ok t, s₁))
    (asks : Asks s s₁ asked) (served : ∀ x ∈ asked, x.served = true)
    (answer : Except NetworkFault String) (world : σ) :
    Tried host sc s (.sent asked t answer)
      ⟨s₁.table, ⟨world, s₁.world.exchanges ++ [.submit t answer]⟩⟩

variable {host : Host (StateM σ)} {sc : Scenario (StateM (Recorded σ))}
  {ss : List (Scenario (StateM (Recorded σ)))} {s s₁ : Moment (Recorded σ)} {attempt : Attempt}
  {attempts : List Attempt}

/-- **One scenario is one attempt**, from any moment on. -/
theorem tried_runOne (courier : Courier) (host : Host (StateM σ)) (hsound : sc.Sound)
    (s : Moment (Recorded σ)) :
    ∃ attempt, Tried host sc s attempt (Run.runFrom (runOne courier host.recorded sc) s).2 ∧
      (Run.runFrom (runOne courier host.recorded sc) s).1 = attempt.result := by
  have hannounce : Run.runFrom (Run.act (host.recorded.info sc.title)) s
      = (.ok (), s.after (host.recorded.info sc.title)) := rfl
  rcases hbuild : Run.runFrom sc.build (s.after (host.recorded.info sc.title)) with ⟨r, s₁⟩
  obtain ⟨asked, hasks, hquiet, hserved⟩ := hsound.asks hbuild
  have hasks : Asks s s₁ asked := ⟨hasks.exchanges, hasks.accounts⟩
  unfold runOne
  rw [Run.runFrom_bind_ok hannounce]
  cases r with
  | error e =>
    rw [Run.runFrom_bind_error hbuild]
    have hrefused : e.IsRefusal → asked = [] := by
      intro he
      have hsame := hsound.asks_nothing hbuild he
      rw [hasks.exchanges] at hsame
      exact List.append_right_eq_self.1 hsame
    exact ⟨.unbuilt asked e, .unbuilt hbuild hasks hquiet hrefused, rfl⟩
  | ok t =>
    rw [Run.runFrom_bind_ok hbuild]
    obtain ⟨answer, world, hsend⟩ := courier.run_send host t s₁
    rw [hsend]
    exact ⟨.sent asked t answer, .sent hbuild hasks (hserved t rfl) answer world, rfl⟩

/-! ### What one attempt leaves -/

theorem Tried.exchanges (h : Tried host sc s attempt s₁) :
    s₁.world.exchanges = s.world.exchanges ++ attempt.exchanges := by
  cases h with
  | unbuilt build asks => exact asks.exchanges
  | sent build asks served answer world =>
    show _ ++ [Exchange.submit _ answer] = _
    rw [asks.exchanges, List.append_assoc]
    rfl

/-- Of the exchanges, those of sending hand over just the transactions. -/
theorem Tried.handed (h : Tried host sc s attempt s₁) :
    handed attempt.exchanges = attempt.transactions := by
  cases h with
  | unbuilt build asks => exact asks.handed.1
  | @sent asked t s₁ build asks served answer world =>
    unfold Attempt.exchanges
    rw [handed_append, asks.handed.1]
    rfl

theorem Tried.quiet (h : Tried host sc s attempt s₁) : Quiet attempt.exchanges := by
  cases h with
  | unbuilt build asks quiet => exact quiet
  | sent build asks served => exact .append served (List.pairwise_singleton _ _)

/-- For a scenario that returns a hash every request has been served, and the last has been
answered with it. -/
theorem Tried.of_ok {hash : String} (h : Tried host sc s attempt s₁)
    (hresult : attempt.result = .ok hash) :
    (∀ x ∈ attempt.exchanges, x.served = true) ∧ answers attempt.exchanges = [.ok hash] := by
  cases h with
  | unbuilt => simp [Attempt.result] at hresult
  | @sent asked t s₁ build asks served answer world =>
    obtain rfl : answer = .ok hash := by
      cases answer with
      | error e => simp [Attempt.result, Except.mapError] at hresult
      | ok found => simpa [Attempt.result, Except.mapError] using hresult
    unfold Attempt.exchanges
    constructor
    · rw [List.forall_mem_append, List.forall_mem_singleton]
      exact ⟨served, rfl⟩
    · rw [answers_append, asks.handed.2]
      rfl

/-- What a scenario sends is entered in the ledger.  A build that fails may have entered more. -/
theorem Tried.ledger {before : NonceTable} {spent : List Reservation}
    (h : Tried host sc s attempt s₁) (hsound : sc.Sound) (hledger : Ledger before s spent) :
    ∃ lost, Ledger before s₁ (spent ++ attempt.transactions.flatMap Signed.reservations ++ lost) ∧
      ∀ hash, attempt.result = .ok hash → lost = [] := by
  have hannounced : Ledger before (s.after (host.recorded.info sc.title)) spent := hledger
  cases h with
  | unbuilt build =>
    obtain ⟨rs, hkept, -⟩ := hannounced.books hsound build
    refine ⟨rs, ?_, by simp [Attempt.result]⟩
    show Ledger before s₁ (spent ++ [] ++ rs)
    rwa [List.append_nil]
  | @sent asked t s₁ build asks served answer world =>
    obtain ⟨rs, hkept, hused⟩ := hannounced.books hsound build
    obtain rfl := hused t rfl
    refine ⟨[], ?_, fun _ _ => rfl⟩
    simp only [Attempt.transactions, List.flatMap_cons, List.flatMap_nil, List.append_nil]
    exact hkept.submit world t answer

/-! ### What all attempts leave -/

/-- Scenarios are tried one after another, up to the first that fails. -/
abbrev Tries (host : Host (StateM σ)) : List (Scenario (StateM (Recorded σ))) →
    Moment (Recorded σ) → List Attempt → Moment (Recorded σ) → Prop :=
  InTurn (Tried host) Attempt.result

theorem Tries.handed (h : Tries host ss s attempts s₁) :
    handed (attempts.flatMap Attempt.exchanges) = attempts.flatMap Attempt.transactions := by
  have heach : ∀ attempt ∈ attempts,
      ShardClient.handed attempt.exchanges = attempt.transactions := h.forall_mem Tried.handed
  unfold ShardClient.handed at heach ⊢
  rw [List.filterMap_flatMap]
  exact List.flatMap_congr heach

theorem Tries.quiet (h : Tries host ss s attempts s₁) :
    Quiet (attempts.flatMap Attempt.exchanges) := by
  induction h with
  | done => exact .nil
  | next first hok _ ih => exact .append (first.of_ok hok).1 ih
  | stop ss first =>
    rw [List.flatMap_cons, List.flatMap_nil, List.append_nil]
    exact first.quiet

/-- The hashes that are returned are the answers of the network, in order. -/
theorem Tries.answers {hashes : List String} (h : Tries host ss s attempts s₁)
    (hresult : attempts.mapM Attempt.result = .ok hashes) :
    answers (attempts.flatMap Attempt.exchanges) = hashes.map .ok := by
  obtain ⟨-, hall⟩ := h.complete hresult
  have heach : ∀ attempt ∈ attempts, ∀ hash, attempt.result = .ok hash →
      ShardClient.answers attempt.exchanges = [.ok hash] :=
    h.forall_mem fun first _ hok => (first.of_ok hok).2
  clear h hresult
  induction hall with
  | nil => rfl
  | cons hfirst _ ih =>
    rw [List.forall_mem_cons] at heach
    rw [List.flatMap_cons, answers_append, heach.1 _ hfirst, ih heach.2]
    rfl

/-- What is sent is entered in the ledger, in order and before all that is lost. -/
theorem Tries.ledger {before : NonceTable} {spent : List Reservation}
    (h : Tries host ss s attempts s₁) (hsound : ∀ sc ∈ ss, sc.Sound)
    (hledger : Ledger before s spent) :
    ∃ lost, Ledger before s₁
      (spent ++ (attempts.flatMap Attempt.transactions).flatMap Signed.reservations ++ lost) := by
  induction h generalizing spent with
  | done => exact ⟨[], by simpa using hledger⟩
  | next first hok _ ih =>
    rw [List.forall_mem_cons] at hsound
    obtain ⟨lost, hkept, hnone⟩ := first.ledger hsound.1 hledger
    obtain rfl := hnone _ hok
    rw [List.append_nil] at hkept
    obtain ⟨more, hrest⟩ := ih hsound.2 hkept
    refine ⟨more, ?_⟩
    rwa [List.flatMap_cons, List.flatMap_append, ← List.append_assoc]
  | stop ss first =>
    obtain ⟨lost, hkept, -⟩ := first.ledger (hsound _ List.mem_cons_self) hledger
    refine ⟨lost, ?_⟩
    rwa [List.flatMap_cons, List.flatMap_nil, List.append_nil]

/-! ### The whole battery -/

/-- There are nineteen scenarios for every network, and six more for a newer one. -/
theorem length_scenarios (c : Composer) (host : Host (StateM (Recorded σ))) (newer : Bool) :
    ((scenarios c host).filter fun sc => newer || !sc.newer).length = if newer then 25 else 19 := by
  cases newer <;> rfl

/-- **A run of the battery is a list of attempts, and sends all nonces in sequence.**  From an
empty table and in any world:  the nonces of an account, in all that is handed to the network and
with those of carried transactions behind those of their envelopes, count up from the first
that the network has told.  Nothing is asked behind a request that was not served.  The scenarios
are tried in order, up to the first that fails, and nothing else passes between run and network.
What is returned is the network's answers, or the error of the last attempt. -/
theorem battery_in_sequence (host : Host (StateM σ)) (c : Composer) (courier : Courier)
    (newer : Bool) (world : σ) :
    let start : Moment (Recorded σ) := ⟨{}, ⟨world, []⟩⟩
    let run := Run.runFrom (run c courier host.recorded newer) start
    let exchanges := run.2.world.exchanges
    (∀ a, Consecutive (firstFetched a exchanges)
      (noncesOf a ((handed exchanges).flatMap Signed.reservations))) ∧
    Quiet exchanges ∧
    ∃ attempts last,
      Tries host ((scenarios c host.recorded).filter fun sc => newer || !sc.newer) start
        attempts last ∧
      exchanges = attempts.flatMap Attempt.exchanges ∧
      handed exchanges = attempts.flatMap Attempt.transactions ∧
      run.1 = attempts.mapM Attempt.result ∧
      ∀ hashes, run.1 = .ok hashes → attempts.length = (if newer then 25 else 19) ∧
        answers exchanges = hashes.map .ok := by
  intro start run exchanges
  have hsound : ∀ sc ∈ (scenarios c host.recorded).filter fun sc => newer || !sc.newer,
      sc.Sound := fun sc hsc => sound_scenarios c host sc (List.mem_of_mem_filter hsc)
  obtain ⟨attempts, (htries : Tries host _ start attempts _), hresult⟩ :=
    inTurn_mapM _ start fun sc hsc => tried_runOne courier host (hsound sc hsc)
  rcases hmap : Run.runFrom (((scenarios c host.recorded).filter fun sc => newer || !sc.newer).mapM
    (runOne courier host.recorded)) start with ⟨r, last⟩
  rw [hmap] at htries hresult
  obtain rfl : r = attempts.mapM Attempt.result := hresult
  -- The last thing done is to log how many there were, which asks for nothing.
  have hrun : run.1 = attempts.mapM Attempt.result ∧ exchanges = last.world.exchanges := by
    cases hr : attempts.mapM Attempt.result with
    | error e =>
      rw [hr] at hmap
      have hend : run = (.error e, last) := Run.runFrom_bind_error hmap
      exact ⟨congrArg Prod.fst hend, congrArg (·.2.world.exchanges) hend⟩
    | ok hashes =>
      rw [hr] at hmap
      have hend : run = _ := Run.runFrom_bind_ok hmap
      exact ⟨congrArg Prod.fst hend, congrArg (·.2.world.exchanges) hend⟩
  have hexchanges : exchanges = attempts.flatMap Attempt.exchanges := by
    rw [hrun.2, htries.written Tried.exchanges]
    exact List.nil_append _
  have hhanded : handed exchanges = attempts.flatMap Attempt.transactions := by
    rw [hexchanges, htries.handed]
  refine ⟨?_, ?_, attempts, last, htries, hexchanges, hhanded, hrun.1, ?_⟩
  · intro a
    obtain ⟨lost, hledger⟩ := htries.ledger hsound (ledger_start {} world)
    have htally := hledger a
    rw [hhanded, hrun.2]
    rw [List.nil_append, noncesOf_append] at htally
    exact htally.consecutive
  · rw [hexchanges]
    exact htries.quiet
  · intro hashes hok
    rw [hrun.1] at hok
    rw [hexchanges]
    refine ⟨?_, htries.answers hok⟩
    rw [(htries.complete hok).1]
    exact length_scenarios c host.recorded newer

end Battery

end ShardClient
