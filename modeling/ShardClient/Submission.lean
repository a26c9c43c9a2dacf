/-
Sending transactions and waiting until they are done.

Transactions that a batch leaves rejected are logged and left out of what is waited for.
Waiting takes one transaction after the other: it asks for the outcome, and asks again after a
pause, until the outcome is final or the time is up.  The time is looked at only after an
outcome that is not final, so at least one is always asked for.
-/
import ShardClient.NonceTable
import ShardClient.Text.Slash

namespace ShardClient

/-- How long to wait for a transaction. -/
structure Patience where
  interval : Duration := Duration.ofSeconds 6
  timeout : Duration := Duration.ofSeconds 600
  /-- How often to ask at most.  With a clock that runs the time is up long before. -/
  maxPolls : Nat := UInt64.size

/-- Sends transactions, and waits for them. -/
structure Courier where
  explorerUrl : String
  patience : Patience := {}

/-- A transaction that the network has accepted, with the hash that it was given. -/
structure Accepted where
  transaction : Signed
  hash : String

variable {m : Type → Type} [Monad m]

namespace Patience

/-- Asks for an outcome until it is final, since the time `start`; at most `polls` times. -/
def poll (p : Patience) (host : Host m) (hash : String) (start : Duration) :
    (polls : Nat) → Run m Outcome
  | 0 => throw (.pollsExhausted hash)
  | polls + 1 => do
    let outcome ← Run.ask (host.network.outcome hash true)
    if outcome.status.isFinal then pure outcome
    else
      let now ← Run.act host.now
      let elapsed := now - start
      if p.timeout ≤ elapsed then throw (.network (.timeout hash elapsed.seconds))
      else
        Run.act (host.pause p.interval)
        p.poll host hash start polls

/-- Waits until a transaction is done. -/
def await (p : Patience) (host : Host m) (hash : String) : Run m Outcome := do
  let start ← Run.act host.now
  p.poll host hash start p.maxPolls

end Patience

namespace Courier

/-- The courier for an explorer, whose address is taken without slashes at its end. -/
def ofUrl (explorerUrl : String) (patience : Patience) : Courier :=
  ⟨withoutSlashes explorerUrl, patience⟩

/-- Where people can look at a transaction. -/
def link (c : Courier) (hash : String) : String := c.explorerUrl ++ "/transactions/" ++ hash

/-- Sends a transaction and returns its hash. -/
def send (c : Courier) (host : Host m) (t : Signed) : Run m String := do
  let hash ← Run.ask (host.network.submit t)
  Run.act (host.info (c.link hash))
  pure hash

/-- Keeps the accepted ones of transactions that have been answered, and logs the others. -/
def keepAccepted (host : Host m) : List (Signed × Option String) → Run m (List Accepted)
  | [] => pure []
  | (t, some hash) :: rest => do
    let accepted ← keepAccepted host rest
    pure (⟨t, hash⟩ :: accepted)
  | (t, none) :: rest => do
    Run.act (host.warn ("rejected: transaction of " ++ t.sender.text ++ " with nonce " ++
      Decimal.text t.nonce.toNat))
    keepAccepted host rest

/-- Sends transactions at once and returns the accepted ones in order. -/
def sendBatch (_ : Courier) (host : Host m) (ts : List Signed) : Run m (List Accepted) := do
  let hashes ← Run.ask (host.network.submitBatch ts)
  let accepted ← keepAccepted host (ts.zip hashes)
  Run.act (host.info ("sent " ++ Decimal.text accepted.length ++ " of " ++
    Decimal.text ts.length ++ " transactions"))
  pure accepted

/-- Waits for one transaction, and logs that it is done. -/
def awaitOne (c : Courier) (host : Host m) (hash : String) : Run m Outcome := do
  let outcome ← c.patience.await host hash
  Run.act (host.info ("Completed: " ++ c.link hash))
  pure outcome

/-- Waits for each transaction in turn; the outcomes come in the same order. -/
def awaitAll (c : Courier) (host : Host m) (accepted : List Accepted) : Run m (List Outcome) := do
  Run.act (host.info ("Awaiting completion of " ++ Decimal.text accepted.length ++
    " transactions..."))
  accepted.mapM fun a => c.awaitOne host a.hash

end Courier

end ShardClient
