/-
Everything that can stop a run, and how it is put into words.

Nothing is recovered from: an error goes through to the one who started the run.
-/
import ShardClient.Configuration
import ShardClient.Network.Basic
import ShardClient.Relay
import ShardClient.Sharding

namespace ShardClient

/-- The registry has no such entry. -/
inductive NoEntry where
  | user (shard : ShardId) (index : Nat)
  /-- The shard has fewer users than the range needs. -/
  | users (shard : ShardId) (start stop available : Nat)
  | contract (shard : ShardId) (index : Nat)
  /-- No account has the address. -/
  | account (address : Address)
  deriving DecidableEq

/-- The wording of an error. -/
def NoEntry.message : NoEntry → String
  | .user shard index =>
    "no user at index " ++ Decimal.text index ++ " in shard " ++ Decimal.text shard.toNat
  | .users shard start stop available =>
    "not enough users in shard " ++ Decimal.text shard.toNat ++ ": wanted " ++
      Decimal.text start ++ ".." ++ Decimal.text stop ++ ", have " ++ Decimal.text available
  | .contract shard index =>
    "no known contract at index " ++ Decimal.text index ++ " in shard " ++
      Decimal.text shard.toNat
  | .account address => "address " ++ address.text ++ " is not managed by this run"

/-- Why senders cannot be paired with receivers. -/
inductive PairingError where
  /-- There is not one receiver for each sender. -/
  | unequal (senders receivers : Nat)
  /-- There are none. -/
  | empty
  deriving DecidableEq

/-- The wording of an error. -/
def PairingError.message : PairingError → String
  | .unequal senders receivers =>
    "relayed v3 needs one receiver per sender: got " ++ Decimal.text senders ++
      " senders and " ++ Decimal.text receivers ++ " receivers"
  | .empty => "relayed v3 needs at least one inner transaction"

/-- Why the outcome of a transaction is not what was hoped for. -/
inductive OutcomeFault where
  | missing
  /-- The transaction, which ended in the given status, issued no token. -/
  | noIssuance (status : Status)
  deriving DecidableEq

/-- The wording of a fault. -/
def OutcomeFault.message : OutcomeFault → String
  | .missing => "no outcome returned"
  | .noIssuance status => "no issue event (status " ++ status.word ++ ")"

/-- What can stop a run. -/
inductive RunError where
  | lookup (cause : NoEntry)
  | pairing (cause : PairingError)
  | configuration (cause : ConfigurationError)
  | network (cause : NetworkFault)
  | signer (cause : SignerMismatch)
  | relay (cause : RelayError)
  | code (cause : CodeFileError)
  /-- The account has no nonces left. -/
  | noncesExhausted (address : Address)
  | outcome (hash : String) (fault : OutcomeFault)
  /-- The transaction was asked for as often as allowed, and was still not done. -/
  | pollsExhausted (hash : String)
  deriving DecidableEq

/-- The wording of an error. -/
def RunError.message : RunError → String
  | .lookup cause => cause.message
  | .pairing cause => cause.message
  | .configuration cause => cause.message
  | .network cause => "network fault: " ++ cause.message
  | .signer cause => cause.message
  | .relay cause => cause.message
  | .code cause => cause.message
  | .noncesExhausted address => "nonces of " ++ address.text ++ " are exhausted"
  | .outcome hash fault => "transaction " ++ hash ++ ": " ++ fault.message
  | .pollsExhausted hash => "transaction " ++ hash ++ " was polled too often"

end ShardClient
