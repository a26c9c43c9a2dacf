/-
Preparing a network, phase by phase.

Of a stage that has been entered a phase is left: the requests for accounts, made while its
transactions were built; the one request that handed them to the network, if it came to that; and
the waits for those that were accepted.  A run is a list of phases, each beginning where the one
before it ended, and the first that fails is the last.  So nothing of a stage is asked for before
all that was accepted in the stages before it is done.
-/
import ShardClient.Proofs.Preparation.Stages
import ShardClient.Proofs.Submission.Handing
import ShardClient.Proofs.Submission.Record

namespace ShardClient

namespace Preparation

variable {σ : Type}

/-! ### One stage -/

/-- The exchange hands over the transactions of the stage: an issuance alone, all others in a
batch. -/
def Stage.Submits (stage : Stage) (ts : List Signed) : Exchange → Prop
  | .submit t _ => stage = .issuance ∧ ts = [t]
  | .submitBatch us _ => stage ≠ .issuance ∧ ts = us
  | _ => False

/-- What became of a stage. -/
structure Phase where
  stage : Stage
  /-- The requests made while its transactions were built. -/
  asked : List Exchange
  /-- The request that handed them to the network.  There is none if they could not be built. -/
  submission : Option Exchange
  waits : List (Wait Exchange)
  result : Except RunError Unit

namespace Phase

/-- All that passed between the run and the network. -/
def exchanges (p : Phase) : List Exchange :=
  p.asked ++ p.submission.toList ++ p.waits.flatMap Wait.exchanges

/-- The transactions that the network accepted. -/
def accepted (p : Phase) : List Accepted := p.submission.elim [] Exchange.accepted

/-- All that was accepted is done: it was waited for in order, each transaction up to its first
final outcome, and for nothing else. -/
structure Settled (p : Phase) : Prop where
  result : p.result = .ok ()
  submitted : ∃ x, p.submission = some x ∧ x.served = true
  waited : p.waits.map Wait.hash = p.accepted.map Accepted.hash
  final : ∀ w ∈ p.waits, ∃ exchanges outcome, w.ending = .final exchanges outcome

/-- A phase in which everything comes in order: only accounts are asked for before the submission,
and behind it only what was accepted of it is waited for, one after the other, up to the first
wait that fails. -/
structure Orderly (courier : Courier) (p : Phase) : Prop where
  accounts : ∀ x ∈ p.asked, ∃ a answer, x = .account a answer
  submits : ∀ x, p.submission = some x → ∃ ts, p.stage.Submits ts x
  fits : ∀ w ∈ p.waits, w.Fits PolledOnce courier.patience
  inOrder : p.waits.map Wait.hash <+: p.accepted.map Accepted.hash
  ended : ∀ w ∈ p.waits.dropLast, ∃ outcome, w.result = .ok outcome

end Phase

/-- A stage is gone through: it is announced and its transactions are built, for which accounts are
asked for; if that succeeds they are handed over in one request; and if that is served, then
what is accepted is waited for, in order and up to the first wait that fails. -/
inductive Performed (host : Host (StateM σ)) (c : Composer) (courier : Courier) (stage : Stage)
    (s : Moment (Recorded σ)) : Phase → Moment (Recorded σ) → Prop
  | unbuilt {asked : List Exchange} {e : RunError} {s₁ : Moment (Recorded σ)}
    (build : Run.runFrom (stage.call.perform c host.recorded)
      (s.after (host.recorded.info stage.title)) = (.error e, s₁))
    (asks : Asks s s₁ asked) (quiet : Quiet asked) :
    Performed host c courier stage s ⟨stage, asked, none, [], .error e⟩ s₁
  | unsent {asked : List Exchange} {ts : List Signed} {s₁ s₂ : Moment (Recorded σ)} {x : Exchange}
    {fault : NetworkFault}
    (build : Run.runFrom (stage.call.perform c host.recorded)
      (s.after (host.recorded.info stage.title)) = (.ok ts, s₁))
    (asks : Asks s s₁ asked) (served : ∀ y ∈ asked, y.served = true)
    (submits : stage.Submits ts x) (refused : x.refusal = some fault)
    (exchanges : s₂.world.exchanges = s₁.world.exchanges ++ [x]) :
    Performed host c courier stage s ⟨stage, asked, some x, [], .error (.network fault)⟩ s₂
  | sent {asked : List Exchange} {ts : List Signed} {s₁ s₂ s₃ s₄ : Moment (Recorded σ)}
    {x : Exchange} {waits : List (Wait Exchange)} {r : Except RunError Unit}
    {outcomes : Except RunError (List Outcome)}
    (build : Run.runFrom (stage.call.perform c host.recorded)
      (s.after (host.recorded.info stage.title)) = (.ok ts, s₁))
    (asks : Asks s s₁ asked) (served : ∀ y ∈ asked, y.served = true)
    (submits : stage.Submits ts x) (taken : x.served = true)
    (exchanges : s₂.world.exchanges = s₁.world.exchanges ++ [x])
    (waited : Waits courier x.accepted s₂ (outcomes, s₃) waits)
    (failed : ∀ e, outcomes = .error e → r = .error e)
    (concluded : s₄.world.exchanges = s₃.world.exchanges) :
    Performed host c courier stage s ⟨stage, asked, some x, waits, r⟩ s₄

/-- The run hands over the transactions of the stage in one request, and returns something that
tells which ones were accepted. -/
def Hands {κ : Type} (x : Run (StateM (Recorded σ)) κ) (stage : Stage) (ts : List Signed)
    (accepted : κ → List Accepted) : Prop :=
  ∀ s, ∃ y s₁, stage.Submits ts y ∧ s₁.world.exchanges = s.world.exchanges ++ [y] ∧
    ((∃ k, Run.runFrom x s = (.ok k, s₁) ∧ y.served = true ∧ y.accepted = accepted k) ∨
      ∃ fault, Run.runFrom x s = (.error (.network fault), s₁) ∧ y.refusal = some fault)

variable {host : Host (StateM σ)} {c : Composer} {courier : Courier} {stage : Stage}

theorem hands_send (courier : Courier) (host : Host (StateM σ)) (t : Signed) :
    Hands (courier.send host.recorded t) .issuance [t] fun hash => [⟨t, hash⟩] := by
  intro s
  obtain ⟨answer, world, hrun⟩ := courier.run_send host t s
  refine ⟨.submit t answer, ⟨s.table, world, s.world.exchanges ++ [.submit t answer]⟩,
    ⟨rfl, rfl⟩, rfl, ?_⟩
  cases answer with
  | error fault => exact .inr ⟨fault, hrun, rfl⟩
  | ok hash => exact .inl ⟨hash, hrun, rfl, rfl⟩

theorem hands_sendBatch (courier : Courier) (host : Host (StateM σ)) (h : stage ≠ .issuance)
    (ts : List Signed) : Hands (courier.sendBatch host.recorded ts) stage ts fun a => a := by
  intro s
  rw [courier.run_sendBatch_recorded]
  rcases (host.network.submitBatch ts).run s.world.world with ⟨answer, world⟩
  cases answer with
  | error fault => exact ⟨.submitBatch ts (.error fault), _, ⟨h, rfl⟩, rfl, .inr ⟨fault, rfl, rfl⟩⟩
  | ok hashes =>
    refine ⟨.submitBatch ts (.ok hashes), _, ⟨h, rfl⟩, ?_, .inl ⟨_, rfl, rfl, rfl⟩⟩
    exact Moment.exchanges_logged host _ _

/-- What has the shape of a stage goes through it. -/
theorem performed_handled {β κ : Type} {build : Run (StateM (Recorded σ)) β}
    (txs : β → List Signed) {hand : β → Run (StateM (Recorded σ)) κ}
    {accepted : β → κ → List Accepted}
    {conclude : β → κ → List Outcome → Run (StateM (Recorded σ)) Unit}
    (hcall : stage.call.perform c host.recorded = do return txs (← build))
    (hhands : ∀ b, Hands (hand b) stage (txs b) (accepted b))
    (hsilent : ∀ b k outcomes, Silent (conclude b k outcomes)) (s : Moment (Recorded σ)) :
    let run := Run.runFrom (handled courier host.recorded build hand accepted conclude)
      (s.after (host.recorded.info stage.title))
    ∃ p, Performed host c courier stage s p run.2 ∧ run.1 = p.result := by
  intro run
  rcases hbuild : Run.runFrom build (s.after (host.recorded.info stage.title)) with ⟨r, s₁⟩
  have hrun : run = Run.runFrom (handled courier host.recorded build hand accepted conclude)
    (s.after (host.recorded.info stage.title)) := rfl
  unfold handled at hrun
  cases r with
  | error e =>
    rw [Run.runFrom_bind_error hbuild] at hrun
    have hfails : Run.runFrom (stage.call.perform c host.recorded)
        (s.after (host.recorded.info stage.title)) = (.error e, s₁) := by
      rw [hcall]
      exact Run.runFrom_bind_error hbuild
    obtain ⟨asked, hasks, hquiet, -⟩ := (stage.call.books c host).asks hfails
    rw [hrun]
    exact ⟨_, .unbuilt hfails ⟨hasks.exchanges, hasks.accounts⟩ hquiet, rfl⟩
  | ok b =>
    rw [Run.runFrom_bind_ok hbuild] at hrun
    have hbuilt : Run.runFrom (stage.call.perform c host.recorded)
        (s.after (host.recorded.info stage.title)) = (.ok (txs b), s₁) := by
      rw [hcall]
      exact Run.runFrom_bind_ok hbuild
    obtain ⟨asked, hasks, -, hserved⟩ := (stage.call.books c host).asks hbuilt
    have hasks : Asks s s₁ asked := ⟨hasks.exchanges, hasks.accounts⟩
    obtain ⟨x, s₂, hsubmits, hexchanges, handed⟩ := hhands b s₁
    rcases handed with ⟨k, hhand, htaken, haccepted⟩ | ⟨fault, hhand, hrefused⟩
    · rw [Run.runFrom_bind_ok hhand, ← haccepted] at hrun
      obtain ⟨waits, hwaits⟩ := waits_awaitAll host courier x.accepted s₂
      rcases hawait : Run.runFrom (courier.awaitAll host.recorded x.accepted) s₂
        with ⟨outcomes, s₃⟩
      rw [hawait] at hwaits
      cases outcomes with
      | error e =>
        rw [Run.runFrom_bind_error hawait] at hrun
        rw [hrun]
        exact ⟨⟨stage, asked, some x, waits, .error e⟩, .sent hbuilt hasks (hserved _ rfl) hsubmits
          htaken hexchanges hwaits (by simp) rfl, rfl⟩
      | ok found =>
        rw [Run.runFrom_bind_ok hawait] at hrun
        rw [hrun]
        exact ⟨⟨stage, asked, some x, waits, _⟩, .sent hbuilt hasks (hserved _ rfl) hsubmits htaken
          hexchanges hwaits (by simp) (hsilent b k found s₃), rfl⟩
    · rw [Run.runFrom_bind_error hhand] at hrun
      rw [hrun]
      exact ⟨_, .unsent hbuilt hasks (hserved _ rfl) hsubmits hrefused hexchanges, rfl⟩

theorem silent_logContracts (host : Host (StateM σ)) (contracts : List Address) :
    Silent (logContracts host.recorded contracts) := by
  induction contracts with
  | nil => exact silent_pure ()
  | cons contract contracts ih => exact (silent_info host _).bind fun _ => ih

theorem silent_issued (hash : String) (outcomes : List Outcome) :
    Silent (σ := σ) (issued hash outcomes) := by
  unfold issued
  split
  · exact silent_throw _
  · split
    · exact silent_throw _
    · exact silent_pure _

/-- **One stage is one phase**, from any moment on. -/
theorem performed_perform (host : Host (StateM σ)) (c : Composer) (courier : Courier)
    (stage : Stage) (s : Moment (Recorded σ)) :
    ∃ p, Performed host c courier stage s p
        (Run.runFrom (stage.perform c courier host.recorded) s).2 ∧
      (Run.runFrom (stage.perform c courier host.recorded) s).1 = p.result := by
  have hannounce : Run.runFrom (Run.act (host.recorded.info stage.title)) s
      = (.ok (), s.after (host.recorded.info stage.title)) := rfl
  unfold Stage.perform
  rw [Run.runFrom_bind_ok hannounce]
  cases stage with
  | nativeAirdrops =>
    rw [Stage.body, airdropNative_eq]
    refine performed_handled (fun ts => ts) (bind_pure _).symm ?_ ?_ s
    · exact hands_sendBatch courier host (by decide)
    · exact fun _ _ _ => silent_pure ()
  | issuance =>
    rw [issue_eq]
    refine performed_handled (fun t => [t]) rfl ?_ ?_ s
    · exact hands_send courier host
    · exact fun _ hash outcomes => (silent_issued hash outcomes).bind fun _ => silent_info host _
  | tokenAirdrops =>
    rw [Stage.body, airdropTokens_eq]
    refine performed_handled (fun ts => ts) (bind_pure _).symm ?_ ?_ s
    · exact hands_sendBatch courier host (by decide)
    · exact fun _ _ _ => silent_pure ()
  | deployments =>
    rw [deployContracts_eq]
    refine performed_handled (fun ds => ds.map (·.1)) rfl ?_ ?_ s
    · exact fun ds => hands_sendBatch courier host (by decide) _
    · exact fun _ _ _ => silent_logContracts host _

/-! ### What one phase leaves -/

variable {s s₁ : Moment (Recorded σ)} {p : Phase} {phases : List Phase}

theorem Performed.stage_eq (h : Performed host c courier stage s p s₁) : p.stage = stage := by
  cases h <;> rfl

theorem Performed.exchanges (h : Performed host c courier stage s p s₁) :
    s₁.world.exchanges = s.world.exchanges ++ p.exchanges := by
  unfold Phase.exchanges
  cases h with
  | unbuilt build asks =>
    rw [asks.exchanges]
    simp
  | unsent build asks served submits refused exchanges =>
    rw [exchanges, asks.exchanges]
    simp
  | sent build asks served submits taken exchanges waited failed concluded =>
    rw [concluded, waited.exchanges, exchanges, asks.exchanges]
    simp

theorem Performed.orderly (h : Performed host c courier stage s p s₁) : p.Orderly courier := by
  cases h with
  | unbuilt build asks => exact ⟨asks.accounts, by simp, by simp, List.nil_prefix, by simp⟩
  | unsent build asks served submits =>
    refine ⟨asks.accounts, ?_, by simp, List.nil_prefix, by simp⟩
    rintro _ ⟨⟩
    exact ⟨_, submits⟩
  | sent build asks served submits taken exchanges waited =>
    refine ⟨asks.accounts, ?_, waited.fits, waited.inOrder, waited.ended⟩
    rintro _ ⟨⟩
    exact ⟨_, submits⟩

/-- A phase that does not fail is settled. -/
theorem Performed.settled (h : Performed host c courier stage s p s₁) (hok : p.result = .ok ()) :
    p.Settled := by
  cases h with
  | unbuilt => simp at hok
  | unsent => simp at hok
  | @sent asked ts s₁ s₂ s₃ s₄ x waits r outcomes build asks served submits taken exchanges waited
      failed =>
    obtain rfl : r = .ok () := hok
    cases outcomes with
    | error e => exact absurd (failed e rfl) (by simp)
    | ok found =>
      obtain ⟨hhashes, hended⟩ := waited.complete found rfl
      refine ⟨rfl, ⟨x, rfl, taken⟩, hhashes, fun w hw => ?_⟩
      obtain ⟨outcome, hresult⟩ := hended w hw
      obtain ⟨xs, hfinal⟩ := Wait.final_of_ok hresult
      exact ⟨xs, outcome, hfinal⟩

/-- All requests of a phase that does not fail were served. -/
theorem Performed.served (h : Performed host c courier stage s p s₁) (hok : p.result = .ok ()) :
    ∀ x ∈ p.exchanges, x.served = true := by
  have hfinal := (h.settled hok).final
  unfold Phase.exchanges
  cases h with
  | unbuilt => simp at hok
  | unsent => simp at hok
  | @sent asked ts s₁ s₂ s₃ s₄ x waits r outcomes build asks served submits taken exchanges waited =>
    have hended : ∀ w ∈ waits, ∃ outcome, w.result = .ok outcome := by
      intro w hw
      obtain ⟨xs, outcome, hw⟩ := hfinal w hw
      exact ⟨outcome, by rw [Wait.result, hw]⟩
    rw [List.forall_mem_append, List.forall_mem_append]
    exact ⟨⟨served, by simpa using taken⟩, served_waits waited.fits hended⟩

theorem Performed.quiet (h : Performed host c courier stage s p s₁) : Quiet p.exchanges := by
  unfold Phase.exchanges
  cases h with
  | unbuilt build asks quiet => simpa using quiet
  | unsent build asks served =>
    rw [List.flatMap_nil, List.append_nil]
    exact .append served (List.pairwise_singleton _ _)
  | sent build asks served submits taken exchanges waited =>
    rw [List.append_assoc]
    refine .append served (.append ?_ (quiet_waits waited.fits waited.ended))
    simpa using taken

/-- Whatever is polled in a phase was accepted in it. -/
theorem Phase.Orderly.polled (h : p.Orderly courier) {hash : String} {processStatus : Bool}
    {answer : Except NetworkFault Outcome}
    (hpolled : .outcome hash processStatus answer ∈ p.exchanges) :
    ∃ x, p.submission = some x ∧
      ∃ a ∈ x.accepted, a.hash = hash ∧ a.transaction ∈ x.submitted := by
  unfold Phase.exchanges at hpolled
  rw [List.mem_append, List.mem_append] at hpolled
  rcases hpolled with (hasked | hsubmission) | hwaits
  · obtain ⟨a, answer, hx⟩ := h.accounts _ hasked
    cases hx
  · obtain ⟨ts, hsubmits⟩ := h.submits _ (Option.mem_toList.1 hsubmission)
    exact hsubmits.elim
  · obtain ⟨w, hw, hx⟩ := List.mem_flatMap.1 hwaits
    obtain ⟨answer, hx⟩ := (h.fits w hw).asks _ hx
    cases hx
    obtain ⟨a, ha, hhash⟩ := List.mem_map.1 (h.inOrder.subset (List.mem_map_of_mem hw))
    unfold Phase.accepted at ha
    cases hsubmission : p.submission with
    | none => simp [hsubmission] at ha
    | some x =>
      rw [hsubmission] at ha
      exact ⟨x, rfl, a, ha, hhash, Exchange.mem_submitted ha⟩

/-! ### What all phases leave -/

/-- Stages are gone through one after another, up to the first that fails. -/
abbrev Prepares (host : Host (StateM σ)) (c : Composer) (courier : Courier) : List Stage →
    Moment (Recorded σ) → List Phase → Moment (Recorded σ) → Prop :=
  InTurn (Performed host c courier) Phase.result

variable {stages : List Stage}

theorem Prepares.quiet (h : Prepares host c courier stages s phases s₁) :
    Quiet (phases.flatMap Phase.exchanges) := by
  induction h with
  | done => exact .nil
  | next first hok _ ih => exact .append (first.served hok) ih
  | stop stages first =>
    rw [List.flatMap_cons, List.flatMap_nil, List.append_nil]
    exact first.quiet

/-- All phases but the last are settled, and the last one is if it has not failed. -/
theorem Prepares.settled (h : Prepares host c courier stages s phases s₁) :
    (∀ p ∈ phases.dropLast, p.Settled) ∧
      ∀ results, phases.mapM Phase.result = .ok results →
        phases.map Phase.stage = stages ∧ ∀ p ∈ phases, p.Settled := by
  have heach : ∀ p ∈ phases, p.result = .ok () → p.Settled :=
    h.forall_mem fun first => first.settled
  refine ⟨fun p hp => ?_, fun results hresults => ?_⟩
  · obtain ⟨⟨⟩, hok⟩ := h.ok_of_mem_dropLast p hp
    exact heach p ((List.dropLast_sublist _).subset hp) hok
  · obtain ⟨hlength, hall⟩ := h.complete hresults
    have hstages : phases.map Phase.stage <+: stages.map id :=
      h.prefix_map fun first => first.stage_eq
    rw [List.map_id] at hstages
    refine ⟨hstages.eq_of_length (by rw [List.length_map, hlength]), fun p hp => ?_⟩
    obtain ⟨⟨⟩, hok⟩ := exists_of_forall₂ hall p hp
    exact heach p hp hok

/-! ### The whole preparation -/

/-- **A network is prepared in phases**, whatever the options are, whatever the network answers and
from any moment on.  The phases are those of the plan, in order and up to the first that fails,
and nothing else passes between the run and the network.  In each, accounts are asked for, then
its transactions are handed over in one request, and then what was accepted of them is waited
for: whatever is polled was accepted in the same phase.  Each phase but the last has settled:
what it had accepted is final before the next one asks for anything.  Nothing is asked behind a
request that was not served, and the first error is what is returned.  A run that succeeds has gone
through the whole plan, and all its phases are settled. -/
theorem prepared_in_phases (host : Host (StateM σ)) (c : Composer) (courier : Courier)
    (options : Options) (s : Moment (Recorded σ)) :
    let run := Run.runFrom (run c courier host.recorded options) s
    ∃ phases : List Phase,
      Prepares host c courier (plan options) s phases run.2 ∧
      run.2.world.exchanges = s.world.exchanges ++ phases.flatMap Phase.exchanges ∧
      run.1 = (do let _ ← phases.mapM Phase.result; pure ()) ∧
      phases.map Phase.stage <+: plan options ∧
      (∀ p ∈ phases, p.Orderly courier ∧
        ∀ hash processStatus answer, .outcome hash processStatus answer ∈ p.exchanges →
          ∃ x, p.submission = some x ∧
            ∃ a ∈ x.accepted, a.hash = hash ∧ a.transaction ∈ x.submitted) ∧
      (∀ p ∈ phases.dropLast, p.Settled) ∧
      Quiet (phases.flatMap Phase.exchanges) ∧
      (run.1 = .ok () → phases.map Phase.stage = plan options ∧ ∀ p ∈ phases, p.Settled) := by
  intro run
  obtain ⟨phases, (hprepares : Prepares host c courier _ s phases _), hresult⟩ :=
    inTurn_mapM (plan options) s fun stage _ s => performed_perform host c courier stage s
  rcases hmap : Run.runFrom ((plan options).mapM (Stage.perform c courier host.recorded)) s
    with ⟨r, last⟩
  rw [hmap] at hprepares hresult
  obtain rfl : r = phases.mapM Phase.result := hresult
  -- What the stages return is nothing, and it is dropped.
  have hrun : run = ((do let _ ← phases.mapM Phase.result; pure ()), last) := by
    show Run.runFrom (Preparation.run c courier host.recorded options) s = _
    rw [run_eq]
    cases hr : phases.mapM Phase.result with
    | error e =>
      rw [hr] at hmap
      exact Run.runFrom_bind_error hmap
    | ok results =>
      rw [hr] at hmap
      exact Run.runFrom_bind_ok hmap
  have hstages : phases.map Phase.stage <+: (plan options).map id :=
    hprepares.prefix_map Performed.stage_eq
  rw [List.map_id] at hstages
  have horderly : ∀ p ∈ phases, p.Orderly courier := hprepares.forall_mem Performed.orderly
  obtain ⟨hearlier, hall⟩ := hprepares.settled
  rw [hrun]
  refine ⟨phases, hprepares, hprepares.written Performed.exchanges, rfl, hstages,
    fun p hp => ⟨horderly p hp, fun _ _ _ => (horderly p hp).polled⟩, hearlier, hprepares.quiet,
    fun hok => ?_⟩
  cases hr : phases.mapM Phase.result with
  | error e =>
    rw [hr] at hok
    cases hok
  | ok results => exact hall results hr

end Preparation

end ShardClient
