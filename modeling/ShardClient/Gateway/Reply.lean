/-
The replies of a gateway.

Each reply is a record with the data that were asked for, an error and a code.  The data count
only if there is no error and the code is that of success or missing.
-/
import ShardClient.Codec.Base64
import ShardClient.Json.Field
import ShardClient.Network.Basic

namespace ShardClient

/-- A reply with data of some type. -/
structure Reply (α : Type) where
  data : Option α
  error : String
  code : String

namespace Reply

variable {α : Type}

/-- Reads a reply whose data are read by the given function. -/
def ofJson? (read : Json → Option α) (v : Json) : Option (Reply α) := do
  let f ← v.fields? ["data", "error", "code"]
  let data ← f.optional? "data" read
  let error ← f.defaulted? "error" "" Json.text?
  let code ← f.defaulted? "code" "" Json.text?
  some ⟨data, error, code⟩

/-- Reads the body of a reply. -/
def ofBody? (read : Json → Option α) (body : Bytes) : Option (Reply α) :=
  (Json.parse? body).bind (ofJson? read)

/-- The data of a reply to a request for `url`. -/
def answer (url : String) (r : Reply α) : Except NetworkFault α :=
  match r.data with
  | some data =>
    if (r.code == "" || r.code == "successful") && r.error == "" then .ok data
    else .error (.api url r.code r.error)
  | none => .error (.api url r.code r.error)

/-! ### Accounts -/

/-- An account as a gateway writes it. -/
structure AccountRecord where
  address : String
  nonce : UInt64
  balance : String
  deriving DecidableEq

/-- Reads an account. -/
def account? (v : Json) : Option AccountRecord := do
  let f ← v.fields? ["account"]
  f.required? "account" fun v => do
    let f ← v.fields? ["address", "nonce", "balance"]
    let address ← f.required? "address" Json.text?
    let nonce ← f.required? "nonce" (Json.nat? UInt64.size)
    let balance ← f.required? "balance" Json.text?
    some ⟨address, UInt64.ofNat nonce, balance⟩

/-- The account that is meant, as replied for `path`. -/
def AccountRecord.state (path : String) (a : AccountRecord) : Except NetworkFault AccountState :=
  match Address.ofText a.address with
  | .error cause => .error (.unexpected path (.address cause))
  | .ok address =>
    match Decimal.ofText amountBound a.balance with
    | .error cause => .error (.unexpected path (.balance a.balance cause))
    | .ok balance => .ok ⟨address, a.nonce, BitVec.ofNat _ balance⟩

/-! ### Submissions -/

/-- Reads the hash of a transaction that was sent. -/
def hash? (v : Json) : Option String := do
  let f ← v.fields? ["txHash"]
  f.required? "txHash" Json.text?

/-- Reads the hashes of transactions that were sent at once, by their place in the batch, in the
order of the texts that name the places. -/
def hashes? (v : Json) : Option (List (String × String)) := do
  let f ← v.fields? ["numOfSentTxs", "txsHashes"]
  let _ ← f.defaulted? "numOfSentTxs" 0 (Json.nat? UInt64.size)
  f.defaulted? "txsHashes" [] (Json.map? Json.text?)

/-- The place below `count` that a text names, if it names one. -/
def place? (count : Nat) (name : String) : Option Nat :=
  match Decimal.ofText UInt64.size name with
  | .ok place => if place < count then some place else none
  | .error _ => none

/-- Puts hashes in their places; of several for one place the last counts. -/
def spread (count : Nat) (hashes : List (String × String)) : List (Option String) :=
  hashes.foldl (fun slots h =>
    match place? count h.1 with
    | some place => slots.set place (some h.2)
    | none => slots) (List.replicate count none)

/-- The hashes that have no place. -/
def stray (count : Nat) (hashes : List (String × String)) : List (String × String) :=
  hashes.filter fun h => (place? count h.1).isNone

/-! ### Outcomes -/

/-- Reads an event.  An address that is none is left out, and a topic that is not base64 counts as
an empty one. -/
def event? (v : Json) : Option Event := do
  let f ← v.fields? ["address", "identifier", "topics"]
  let address ← f.defaulted? "address" none (Json.nullable? Json.text?)
  let identifier ← f.required? "identifier" Json.text?
  let topics ← f.defaulted? "topics" none (Json.nullable? (Json.list? Json.text?))
  some
    { address := address.bind fun text => (Address.ofText text).toOption
      identifier := identifier
      topics := (topics.getD []).map fun topic => (Base64.decode? topic).getD [] }

/-- Reads the events of a log. -/
def log? (v : Json) : Option (List Event) := do
  let f ← v.fields? ["events"]
  f.defaulted? "events" [] (Json.list? event?)

/-- Reads the events of a contract that was called. -/
def contractLog? (v : Json) : Option (Option (List Event)) := do
  let f ← v.fields? ["logs"]
  f.defaulted? "logs" none (Json.nullable? log?)

/-- A transaction as a gateway writes it. -/
structure TransactionRecord where
  hash : Option String
  status : String
  log : Option (List Event)
  /-- The logs of the contracts that were called. -/
  contractLogs : List (Option (List Event))
  deriving DecidableEq

/-- Reads a transaction. -/
def transaction? (v : Json) : Option TransactionRecord := do
  let f ← v.fields? ["transaction"]
  f.required? "transaction" fun v => do
    let f ← v.fields? ["hash", "status", "logs", "smartContractResults"]
    let hash ← f.defaulted? "hash" none (Json.nullable? Json.text?)
    let status ← f.required? "status" Json.text?
    let log ← f.defaulted? "logs" none (Json.nullable? log?)
    let contractLogs ← f.defaulted? "smartContractResults" [] (Json.list? contractLog?)
    some ⟨hash, status, log, contractLogs⟩

/-- The outcome that is meant, as replied for the transaction with the given hash: first its own
events, then those of the contracts in order. -/
def TransactionRecord.outcome (hash : String) (t : TransactionRecord) : Outcome where
  hash := t.hash.getD hash
  status := Status.ofText t.status
  events := ((t.log :: t.contractLogs).map fun log => log.getD []).flatten

/-- Reads how far the processing of a transaction has come. -/
def status? (v : Json) : Option Status := do
  let f ← v.fields? ["status"]
  let word ← f.required? "status" Json.text?
  some (Status.ofText word)

end Reply

end ShardClient
