/-
What a client sees of a network.

A network is a record of four operations in some monad: ask for an account, send one
transaction, send many, ask for the outcome of a transaction.  Everything above this module is
written against the record, so it runs as well over a gateway as over a network kept in
memory, and what is proved of it holds for every network.
-/
import ShardClient.Text.Decimal
import ShardClient.Transaction.Wire

namespace ShardClient

/-- An account as the network reports it. -/
structure AccountState where
  address : Address
  nonce : UInt64
  balance : Amount
  deriving DecidableEq

/-- How far a transaction has come: a word in lower case. -/
structure Status where
  word : String
  deriving DecidableEq

namespace Status

/-- The status that a word names, in letters of either case. -/
def ofText (s : String) : Status := ⟨String.ofList (s.toList.map Char.toLower)⟩

/-- Whether the transaction is done, as intended. -/
def isSuccessful (s : Status) : Bool := ["success", "successful", "executed"].contains s.word

/-- Whether the transaction is done, to no effect. -/
def isFailed (s : Status) : Bool := ["fail", "failed", "unsuccessful", "invalid"].contains s.word

/-- Whether the transaction is done.  Any other status is still going to change. -/
def isFinal (s : Status) : Bool := s.isSuccessful || s.isFailed

end Status

/-- Something that happened while a transaction was executed. -/
structure Event where
  address : Option Address
  identifier : String
  topics : List Bytes
  deriving DecidableEq

/-- A transaction as the network reports it.  Its own events come before those of the contracts
that it called. -/
structure Outcome where
  hash : String
  status : Status
  events : List Event
  deriving DecidableEq

/-- Why a reply cannot be understood. -/
inductive ReplyFault where
  | address (cause : AddressError)
  | balance (text : String) (cause : Decimal.ReadError)
  deriving DecidableEq

/-- The wording of a fault. -/
def ReplyFault.message : ReplyFault → String
  | .address cause => cause.message
  | .balance text cause => "bad balance " ++ Quoted.text text ++ ": " ++ cause.message

/-- Why an exchange with a gateway failed. -/
inductive HttpFault where
  /-- The address of the request is no absolute one. -/
  | noAddress
  /-- The address of the request is not one that can be asked over HTTP. -/
  | notHttp (url : String)
  /-- The request got no reply. -/
  | noReply (url : String)
  /-- The reply is not of the expected form. -/
  | undecodable
  deriving DecidableEq

/-- The wording of a fault. -/
def HttpFault.message : HttpFault → String
  | .noAddress => "builder error"
  | .notHttp url => "builder error for url (" ++ url ++ ")"
  | .noReply url => "error sending request for url (" ++ url ++ ")"
  | .undecodable => "error decoding response body"

/-- Why a network operation failed. -/
inductive NetworkFault where
  | http (fault : HttpFault)
  /-- The network refused. -/
  | api (url code message : String)
  | unexpected (url : String) (fault : ReplyFault)
  /-- A transaction was not done in time. -/
  | timeout (hash : String) (seconds : Nat)
  deriving DecidableEq

/-- The wording of an error. -/
def NetworkFault.message : NetworkFault → String
  | .http fault => "http error: " ++ fault.message
  | .api url code message => "proxy error at " ++ url ++ ": " ++ code ++ ": " ++ message
  | .unexpected url fault => "unexpected response from " ++ url ++ ": " ++ fault.message
  | .timeout hash seconds =>
    "transaction " ++ hash ++ " not completed after " ++ Decimal.text seconds ++ "s"

/-- A network, in the monad `m`. -/
structure Network (m : Type → Type) where
  account : Address → m (Except NetworkFault AccountState)
  /-- Sends a transaction; the network answers with its hash. -/
  submit : Signed → m (Except NetworkFault String)
  /-- Sends transactions at once.  The answer goes along with them: a hash for each that is
  accepted, nothing for each that is rejected. -/
  submitBatch : List Signed → m (Except NetworkFault (List (Option String)))
  /-- The outcome of the transaction with the given hash, so far.  On demand the network looks
  closer and reports how far the processing of the transaction has come. -/
  outcome : (hash : String) → (processStatus : Bool) → m (Except NetworkFault Outcome)

end ShardClient
