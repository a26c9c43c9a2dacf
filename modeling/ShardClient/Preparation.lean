/-
Preparing a network, once, before scenarios can run on it.

Users are given some of the native currency, and the custom token is issued.  On demand the
users are given tokens, and a contract is deployed in every shard.  Each phase waits until all
its transactions are done before the next one begins.
-/
import ShardClient.Composer
import ShardClient.Submission

namespace ShardClient

namespace Preparation

/-- The name and ticker of the token that is issued. -/
def tokenName : String := "ROSETTA"

/-- What to do besides what is always done. -/
structure Options where
  tokenAirdrops : Bool := false
  contractDeployments : Bool := false
  deriving DecidableEq

variable {m : Type → Type} [Monad m]

/-- Sends transactions at once and waits for the accepted ones, which it returns. -/
def sendAndAwait (courier : Courier) (host : Host m) (ts : List Signed) :
    Run m (List Accepted) := do
  let accepted ← courier.sendBatch host ts
  discard (courier.awaitAll host accepted)
  pure accepted

/-- Gives every user some of the native currency. -/
def airdropNative (c : Composer) (courier : Courier) (host : Host m) : Run m Unit := do
  let ts ← c.nativeAirdrops host
  discard (sendAndAwait courier host ts)

/-- Issues a token, and returns the identifier that the network gave it. -/
def issue (c : Composer) (courier : Courier) (host : Host m) (name : String) : Run m String := do
  let t ← c.issuance host name
  let hash ← courier.send host t
  let outcomes ← courier.awaitAll host [⟨t, hash⟩]
  match outcomes with
  | [] => throw (.outcome hash .missing)
  | outcome :: _ =>
    match Issuance.identifiers outcome with
    | [] => throw (.outcome outcome.hash (.noIssuance outcome.status))
    | identifier :: _ => pure identifier

/-- Gives every user some tokens. -/
def airdropTokens (c : Composer) (courier : Courier) (host : Host m) : Run m Unit := do
  let ts ← c.tokenAirdrops host
  discard (sendAndAwait courier host ts)

/-- Deploys a contract in every shard, and returns the addresses of those whose deployment was
accepted. -/
def deployContracts (c : Composer) (courier : Courier) (host : Host m) :
    Run m (List Address) := do
  let deployments ← c.adderDeployments host
  let accepted ← sendAndAwait courier host (deployments.map (·.1))
  pure ((deployments.filter fun d => accepted.any (·.transaction == d.1)).map (·.2))

/-- Logs the addresses of deployed contracts. -/
def logContracts (host : Host m) : List Address → Run m Unit
  | [] => pure ()
  | contract :: rest => do
    Run.act (host.info ("Deployed contract: " ++ contract.text))
    logContracts host rest

/-- Prepares a network. -/
def run (c : Composer) (courier : Courier) (host : Host m) (options : Options) : Run m Unit := do
  Run.act (host.info "Do airdrops for native currency...")
  airdropNative c courier host
  Run.act (host.info "Issue custom currency...")
  let identifier ← issue c courier host tokenName
  Run.act (host.info ("Token identifier: " ++ identifier))
  if options.tokenAirdrops then
    Run.act (host.info "Do airdrops for custom currencies...")
    airdropTokens c courier host
  if options.contractDeployments then
    Run.act (host.info "Deploy contracts...")
    let contracts ← deployContracts c courier host
    logContracts host contracts

end Preparation

end ShardClient
