/-
A workbench: all that a command needs to work on one network.
-/
import ShardClient.Composer
import ShardClient.Gateway.Client
import ShardClient.Submission

namespace ShardClient

/-- What is outside of a workbench: a way to carry requests, a clock, and somewhere to log. -/
structure Outside (m : Type → Type) where
  transport : Transport m
  now : m Duration
  pause : Duration → m Unit
  log : LogLine → m Unit

/-- What a run needs, with the network behind a gateway. -/
def Outside.host {m : Type → Type} [Monad m] (o : Outside m) (gateway : Gateway) : Host m where
  network := gateway.network o.transport o.log
  now := o.now
  pause := o.pause
  log := o.log

/-- The composer and the courier of a run. -/
structure Workbench where
  composer : Composer
  courier : Courier

namespace Workbench

variable {m : Type → Type} [Monad m]

/-- Reads the custom currency.  Where none is needed, a fault in its file is logged and otherwise
ignored, so that a network can be prepared before its token exists. -/
def openCurrency (host : Host m) (files : FileStore) (path : String) (needed : Bool) :
    m (Except RunError (Option String)) := do
  match files.readCurrency path with
  | .ok symbol =>
    host.info ("custom currency: " ++ symbol)
    pure (.ok (some symbol))
  | .error e =>
    if needed then pure (.error (.configuration e))
    else
      host.warn ("no custom currency: " ++ e.message)
      pure (.ok none)

/-- Sets up the workbench that a configuration describes. -/
def ofConfiguration (scheme : SignatureScheme) (host : Host m) (files : FileStore)
    (c : Configuration) (currencyNeeded : Bool) : m (Except RunError Workbench) := do
  match Registry.ofConfiguration scheme c with
  | .error e => pure (.error (.configuration e))
  | .ok registry =>
    host.info registry.summary
    match ← openCurrency host files c.currenciesFile currencyNeeded with
    | .error e => pure (.error e)
    | .ok currency =>
      pure (.ok
        { composer :=
            { registry := registry
              fees := c.fees
              files := files
              contractsDir := c.contractsDir
              currency := currency }
          courier := Courier.ofUrl c.explorerUrl {} })

/-- Sets up the workbench that a configuration describes, with the network behind its gateway. -/
def overGateway (scheme : SignatureScheme) (o : Outside m) (files : FileStore) (c : Configuration)
    (currencyNeeded : Bool) : m (Host m × Except RunError Workbench) := do
  let gateway := Gateway.ofUrl c.proxyUrl
  let host := o.host gateway
  host.info ("network " ++ c.networkId ++ " via " ++ gateway.url)
  let workbench ← ofConfiguration scheme host files c currencyNeeded
  pure (host, workbench)

end Workbench

end ShardClient
