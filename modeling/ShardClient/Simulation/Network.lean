/-
A network kept in memory, for trying out runs.

It accepts what it is sent and records every request that it serves.  Accounts begin with
nonce zero.  Accepted transactions are given hashes by their number, and only these hashes can
be asked for.  What it says of a transaction is prepared beforehand: the events, and statuses
that are used up one at a time, the last of which stays.  It can be told to reject places of a
batch, to answer a batch only in part, and to fail after some more requests.

Its clock moves when a run pauses, by at least a millisecond.
-/
import ShardClient.AddressMap
import ShardClient.Host

namespace ShardClient

/-- The state of the network, and what it has recorded. -/
structure Simulation where
  nonces : AddressMap UInt64 := {}
  /-- The accounts that were asked for. -/
  fetched : Array Address := #[]
  /-- The transactions that were accepted. -/
  sent : Array Signed := #[]
  /-- The hashes that were given to accepted transactions. -/
  issued : Array String := #[]
  /-- The hashes that were asked for. -/
  polled : Array String := #[]
  /-- The places of a batch that are rejected. -/
  rejected : List Nat := []
  /-- How many places of a batch are looked at, if not all. -/
  batchLimit : Option Nat := none
  statuses : List Status := []
  events : List Event := []
  /-- How many more requests are served, if not all. -/
  served : Option Nat := none
  clock : Duration := 0
  log : Array LogLine := #[]

namespace Simulation

/-- The error of a network that is down. -/
def down (url : String) : NetworkFault := .api url "internal_issue" "fake network is down"

/-- Serves a request, unless the network is down. -/
def serve {α : Type} (url : String)
    (request : StateM Simulation (Except NetworkFault α)) :
    StateM Simulation (Except NetworkFault α) := do
  match (← get).served with
  | none => request
  | some 0 => pure (.error (down url))
  | some (n + 1) =>
    modify fun s => { s with served := some n }
    request

/-- Accepts a transaction and gives it a hash. -/
def accept (s : Simulation) (t : Signed) : String × Simulation :=
  let hash := "network-hash-" ++ Decimal.text s.issued.size
  (hash, { s with sent := s.sent.push t, issued := s.issued.push hash })

/-- Accepts the transactions of a batch that are not rejected; the first of them has the given
place. -/
def acceptFrom (place : Nat) : List Signed → StateM Simulation (List (Option String))
  | [] => pure []
  | t :: ts => do
    if (← get).rejected.contains place then
      return none :: (← acceptFrom (place + 1) ts)
    let hash ← modifyGet fun s => s.accept t
    return some hash :: (← acceptFrom (place + 1) ts)

/-- The status that is said next, and those that are left. -/
def nextStatus : List Status → Status × List Status
  | [] => (⟨"success"⟩, [])
  | [last] => (last, [last])
  | first :: rest => (first, rest)

/-- The network. -/
def network : Network (StateM Simulation) where
  account a := serve "address" do
    modify fun s => { s with fetched := s.fetched.push a }
    let nonce := ((← get).nonces.find? a).getD 0
    pure (.ok ⟨a, nonce, 0⟩)
  submit t := serve "transaction/send" do
    let hash ← modifyGet fun s => s.accept t
    pure (.ok hash)
  submitBatch ts := serve "transaction/send-multiple" do
    let seen := match (← get).batchLimit with
      | some limit => ts.take limit
      | none => ts
    let hashes ← acceptFrom 0 seen
    pure (.ok hashes)
  outcome hash _ := serve "transaction" do
    modify fun s => { s with polled := s.polled.push hash }
    if (← get).issued.contains hash then
      let status ← modifyGet fun s =>
        let (status, left) := nextStatus s.statuses
        (status, { s with statuses := left })
      pure (.ok ⟨hash, status, (← get).events⟩)
    else
      pure (.error (.api ("transaction/" ++ hash) "not_found" "transaction not found"))

/-- The smallest step of the clock. -/
def tick : Duration := 1000000

/-- A host with this network. -/
def host : Host (StateM Simulation) where
  network := network
  now := do return (← get).clock
  pause d := modify fun s => { s with clock := s.clock + max d tick }
  log line := modify fun s => { s with log := s.log.push line }

end Simulation

end ShardClient
