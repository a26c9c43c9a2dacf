/-
The stages in which a network is prepared.

The options decide which stages there are; their order is fixed.  All stages have one shape:
transactions are built, handed to the network and waited for, and what came of them is looked
at.  Looking at it can end the run with an error, but makes no request.
-/
import ShardClient.Preparation
import ShardClient.Proofs.Composer.Relays

namespace ShardClient

namespace Preparation

/-- A stage. -/
inductive Stage where
  | nativeAirdrops
  | issuance
  | tokenAirdrops
  | deployments
  deriving DecidableEq

/-- The stages that the options ask for, in order. -/
def plan (options : Options) : List Stage :=
  [.nativeAirdrops, .issuance] ++ (if options.tokenAirdrops then [.tokenAirdrops] else []) ++
    if options.contractDeployments then [.deployments] else []

namespace Stage

/-- The line that announces the stage. -/
def title : Stage → String
  | nativeAirdrops => "Do airdrops for native currency..."
  | issuance => "Issue custom currency..."
  | tokenAirdrops => "Do airdrops for custom currencies..."
  | deployments => "Deploy contracts..."

/-- The call that builds the transactions of the stage. -/
def call : Stage → Call
  | nativeAirdrops => .nativeAirdrops
  | issuance => .issuance tokenName
  | tokenAirdrops => .tokenAirdrops
  | deployments => .adderDeployments

variable {m : Type → Type} [Monad m]

/-- What is done in a stage. -/
def body (c : Composer) (courier : Courier) (host : Host m) : Stage → Run m Unit
  | nativeAirdrops => airdropNative c courier host
  | issuance => do
    let identifier ← issue c courier host tokenName
    Run.act (host.info ("Token identifier: " ++ identifier))
  | tokenAirdrops => airdropTokens c courier host
  | deployments => do
    let contracts ← deployContracts c courier host
    logContracts host contracts

/-- Announces the stage, and does what is to be done in it. -/
def perform (c : Composer) (courier : Courier) (host : Host m) (stage : Stage) : Run m Unit := do
  Run.act (host.info stage.title)
  stage.body c courier host

end Stage

/-- A network is prepared stage by stage. -/
theorem run_eq {m : Type → Type} [Monad m] [LawfulMonad m] (c : Composer) (courier : Courier)
    (host : Host m) (options : Options) :
    run c courier host options
      = (do let _ ← (plan options).mapM (Stage.perform c courier host); pure ()) := by
  obtain ⟨airdrops, deployments⟩ := options
  cases airdrops <;> cases deployments <;>
    simp [run, plan, Stage.perform, Stage.body, Stage.title]

/-! ### The shape of a stage -/

/-- Something is built and handed to the network; what is accepted is waited for, and the outcomes
are looked at. -/
def handled {m : Type → Type} [Monad m] {β κ α : Type} (courier : Courier) (host : Host m)
    (build : Run m β) (hand : β → Run m κ) (accepted : β → κ → List Accepted)
    (conclude : β → κ → List Outcome → Run m α) : Run m α := do
  let b ← build
  let k ← hand b
  let outcomes ← courier.awaitAll host (accepted b k)
  conclude b k outcomes

/-- Doing something for its own sake. -/
theorem discard_eq {f : Type → Type} [Functor f] [LawfulFunctor f] {α : Type} (x : f α) :
    discard x = (fun _ => ()) <$> x := by
  rw [discard, LawfulFunctor.map_const]
  rfl

section

variable {m : Type → Type} [Monad m] [LawfulMonad m] (c : Composer) (courier : Courier)
  (host : Host m)

theorem airdropNative_eq : airdropNative c courier host
    = handled courier host (c.nativeAirdrops host) (courier.sendBatch host) (fun _ a => a)
      fun _ _ _ => pure () := by
  simp [airdropNative, handled, sendAndAwait, discard_eq]

theorem airdropTokens_eq : airdropTokens c courier host
    = handled courier host (c.tokenAirdrops host) (courier.sendBatch host) (fun _ a => a)
      fun _ _ _ => pure () := by
  simp [airdropTokens, handled, sendAndAwait, discard_eq]

/-- The identifier of the issued token, from the outcome of its issuance. -/
def issued (hash : String) (outcomes : List Outcome) : Run m String :=
  match outcomes with
  | [] => throw (.outcome hash .missing)
  | outcome :: _ =>
    match Issuance.identifiers outcome with
    | [] => throw (.outcome outcome.hash (.noIssuance outcome.status))
    | identifier :: _ => pure identifier

theorem issue_eq : Stage.body c courier host .issuance
    = handled courier host (c.issuance host tokenName) (courier.send host)
      (fun t hash => [⟨t, hash⟩]) (fun _ hash outcomes => do
        Run.act (host.info ("Token identifier: " ++ (← issued hash outcomes)))) := by
  simp only [Stage.body, issue, handled, bind_assoc]
  rfl

theorem deployContracts_eq : Stage.body c courier host .deployments
    = handled courier host (c.adderDeployments host)
      (fun ds => courier.sendBatch host (ds.map (·.1))) (fun _ a => a)
      fun ds accepted _ => logContracts host
        ((ds.filter fun d => accepted.any (·.transaction == d.1)).map (·.2)) := by
  simp [Stage.body, deployContracts, handled, sendAndAwait, discard_eq]

end

end Preparation

end ShardClient
