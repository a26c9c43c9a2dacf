/-
Handing out nonces.

The nonce of an account is asked of the network once, at its first use.  From then on it is
counted here, so this run has to be the only one that sends transactions of the account.  A
nonce is handed out only if the one behind it exists; when that is no longer so the account is
used up, and its value stays where it is.
-/
import ShardClient.AddressMap
import ShardClient.RunError
import ShardClient.Host

namespace ShardClient

/-- The next nonce of each account that has been used. -/
abbrev NonceTable := AddressMap UInt64

/-- A run: it may fail, and what it has done to the nonces until then stays. -/
abbrev Run (m : Type → Type) := ExceptT RunError (StateT NonceTable m)

namespace Run

variable {m : Type → Type} [Monad m] {α : Type}

/-- Stops with an error that has been found beforehand. -/
def ofExcept {ε : Type} (wrap : ε → RunError) : Except ε α → Run m α
  | .ok a => pure a
  | .error e => throw (wrap e)

/-- Asks the network. -/
def ask (request : m (Except NetworkFault α)) : Run m α := do
  match ← (request : StateT NonceTable m _) with
  | .ok a => pure a
  | .error e => throw (.network e)

/-- Logs, or otherwise acts outside. -/
def act (action : m α) : Run m α := do
  let a ← (action : StateT NonceTable m α)
  pure a

end Run

/-- The greatest nonce.  It is never handed out. -/
def lastNonce : UInt64 := 0xffffffffffffffff

variable {m : Type → Type} [Monad m]

/-- The next nonce of an account, from the table or from the network. -/
def nextNonce (host : Host m) (a : Address) : Run m UInt64 := do
  let table ← get
  match table.find? a with
  | some nonce => pure nonce
  | none =>
    let account ← Run.ask (host.network.account a)
    set (table.insert a account.nonce)
    pure account.nonce

/-- Reserves the next nonce of an account. -/
def reserveNonce (host : Host m) (a : Address) : Run m UInt64 := do
  let nonce ← nextNonce host a
  if nonce = lastNonce then throw (.noncesExhausted a)
  modify fun table => table.insert a (nonce + 1)
  pure nonce

end ShardClient
