/-
The battery of scenarios.

Each scenario picks its accounts, builds one transaction and sends it.  Scenarios run strictly
in order, and the first one that fails ends the run.  Some are meant to fail on the network,
for lack of balance or because a contract refuses; they are built and sent like the others.
Scenarios that need the newer protocol are left out where the network lacks it.
-/
import ShardClient.Composer
import ShardClient.Submission

namespace ShardClient

/-- A scenario: how it is announced, and how its transaction is built. -/
structure Scenario (m : Type → Type) where
  title : String
  /-- Whether it needs relayed transactions of version three or developer rewards. -/
  newer : Bool := false
  build : Run m Signed

namespace Battery

/-! ### Amounts -/

def smallSum : Amount := 42
def unaffordableSum : Amount := 1000000000000000000000
def coin : Amount := 1000000000000000000
def contractAmount : Amount := 10000000000000000
def refusedDeploymentAmount : Amount := 77

variable {m : Type → Type} [Monad m]

/-! ### Accounts -/

/-- A user of the registry. -/
def user (c : Composer) (shard : ShardId) (index : Nat) : Run m Account :=
  Run.ofExcept .lookup (c.registry.user shard index)

/-- Several users of the registry, the last place left out. -/
def users (c : Composer) (shard : ShardId) (start stop : Nat) : Run m (List Account) :=
  Run.ofExcept .lookup (c.registry.userRange shard start stop)

/-- A contract of the registry. -/
def contract (c : Composer) (shard : ShardId) (index : Nat) : Run m Address :=
  Run.ofExcept .lookup (c.registry.contract shard index)

/-! ### Scenarios -/

/-- A transfer between users. -/
def moveScenario (c : Composer) (host : Host m) (title : String) (sender : ShardId × Nat)
    (receiver : ShardId × Nat) : Scenario m where
  title := title
  build := do
    let sender ← user c sender.1 sender.2
    let receiver ← user c receiver.1 receiver.2
    c.move host sender receiver.address

/-- A transfer between users of more than the sender has. -/
def overdrawScenario (c : Composer) (host : Host m) (title : String) (sender : ShardId × Nat)
    (receiver : ShardId × Nat) : Scenario m where
  title := title
  build := do
    let sender ← user c sender.1 sender.2
    let receiver ← user c receiver.1 receiver.2
    c.overdraw host sender receiver.address

/-- A transfer from a user to the first contract of a shard. -/
def payContractScenario (c : Composer) (host : Host m) (title : String) (sender : ShardId × Nat)
    (shard : ShardId) : Scenario m where
  title := title
  build := do
    let sender ← user c sender.1 sender.2
    let receiver ← contract c shard 0
    c.move host sender receiver

/-- A transfer of native currency and tokens between users. -/
def moveBothScenario (c : Composer) (host : Host m) (title : String) (sender : ShardId × Nat)
    (receiver : ShardId × Nat) : Scenario m where
  title := title
  build := do
    let sender ← user c sender.1 sender.2
    let receiver ← user c receiver.1 receiver.2
    c.moveBoth host sender receiver.address

/-- A transfer of native currency and tokens from a user to the first contract of a shard. -/
def payBothScenario (c : Composer) (host : Host m) (title : String) (sender : ShardId × Nat)
    (shard : ShardId) : Scenario m where
  title := title
  build := do
    let sender ← user c sender.1 sender.2
    let receiver ← contract c shard 0
    c.moveBoth host sender receiver

/-- The first three users of the first shard: relayer, sender and receiver. -/
def firstThree (c : Composer) : Run m (Account × Account × Address) := do
  let relayer ← user c 0 0
  let sender ← user c 0 1
  let receiver ← user c 0 2
  pure (relayer, sender, receiver.address)

/-- Two relayed transfers in one envelope, to users of a shard. -/
def relayedMovesScenario (c : Composer) (host : Host m) (title : String) (shard : ShardId)
    (amount : Amount) : Scenario m where
  title := title
  newer := true
  build := do
    let relayer ← user c 0 0
    let senders ← users c 0 1 3
    let receivers ← users c shard 3 5
    c.relayedMovesV3 host relayer senders (receivers.map (·.address)) amount

/-- A call of the first contract of a shard, which it refuses. -/
def callRefusedScenario (c : Composer) (host : Host m) (title : String) (shard : ShardId) :
    Scenario m where
  title := title
  build := do
    let sender ← user c 0 0
    let receiver ← contract c shard 0
    c.callRefused host sender receiver contractAmount

/-- Transfers that are not relayed. -/
def transfers (c : Composer) (host : Host m) : List (Scenario m) :=
  [moveScenario c host "Intra-shard, simple MoveBalance with refund" (0, 0) (0, 1),
    moveScenario c host "Cross-shard, simple MoveBalance with refund" (0, 1) (1, 0),
    overdrawScenario c host "Intra-shard, invalid MoveBalance with refund" (0, 2) (0, 3),
    overdrawScenario c host "Cross-shard, invalid MoveBalance with refund" (0, 4) (1, 1),
    payContractScenario c host "Intra-shard, sending value to non-payable contract" (0, 0) 0,
    payContractScenario c host "Cross-shard, sending value to non-payable contract" (0, 1) 1,
    moveBothScenario c host "Intra-shard, native transfer within MultiESDTTransfer" (0, 0) (0, 1),
    moveBothScenario c host "Cross-shard, native transfer within MultiESDTTransfer" (0, 1) (1, 0),
    payBothScenario c host
      "Intra-shard, native transfer within MultiESDTTransfer, towards non-payable contract" (0, 0) 0,
    payBothScenario c host
      "Cross-shard, native transfer within MultiESDTTransfer, towards non-payable contract" (0, 1) 1]

/-- Relayed transactions of all versions. -/
def relayed (c : Composer) (host : Host m) : List (Scenario m) :=
  [{ title := "Intra-shard, relayed v1 transaction with MoveBalance"
     build := do
       let (relayer, sender, receiver) ← firstThree c
       c.relayedMoveV1 host relayer sender receiver smallSum },
    { title := "Intra-shard, relayed v1 transaction with ESDT transfer"
      build := do
        let (relayer, sender, receiver) ← firstThree c
        c.relayedTokensV1 host relayer sender receiver smallSum },
    { title := "Intra-shard, relayed v2 transaction with MoveBalance"
      build := do
        let (relayer, sender, receiver) ← firstThree c
        c.relayedMoveV2 host relayer sender receiver smallSum },
    relayedMovesScenario c host "Relayed v3, senders and receivers in same shard" 0 smallSum,
    relayedMovesScenario c host "Relayed v3, senders and receivers in different shards" 1
      smallSum,
    relayedMovesScenario c host
      "Relayed v3, senders and receivers in same shard (insufficient balance)" 0
      unaffordableSum,
    relayedMovesScenario c host
      "Relayed v3, senders and receivers in different shards (insufficient balance)" 1
      unaffordableSum,
    { title :=
        "Relayed v3, senders and receivers in same shard, sending to non-payable contract"
      newer := true
      build := do
        let relayer ← user c 0 0
        let senders ← users c 0 5 6
        let receiver ← contract c 0 0
        c.relayedMovesV3 host relayer senders [receiver] coin },
    { title := "Relayed v1 transaction with MoveBalance, towards a system address"
      build := do
        let relayer ← user c 1 0
        let sender ← user c 1 9
        c.relayedMoveV1 host relayer sender Address.tokenSystem coin }]

/-- Deployments and calls of contracts. -/
def contracts (c : Composer) (host : Host m) : List (Scenario m) :=
  [{ title := "Direct contract deployment with MoveBalance"
     build := do
       let sender ← user c 0 0
       c.deploy host sender contractAmount },
    callRefusedScenario c host "Intra-shard, contract call with MoveBalance, with signal error" 0,
    callRefusedScenario c host "Cross-shard, contract call with MoveBalance, with signal error" 1,
    { title := "Direct contract deployment with MoveBalance, with signal error"
      build := do
        let sender ← user c 0 0
        c.deployRefused host sender refusedDeploymentAmount },
    { title := "ClaimDeveloperRewards on directly owned contract"
      newer := true
      build := do
        let sender ← user c 0 0
        let receiver ← contract c 0 0
        c.claimRewards host sender receiver },
    { title :=
        "Intra-shard, relayed v1 transaction with contract call with MoveBalance, " ++
          "with signal error"
      build := do
        let relayer ← user c 0 0
        let sender ← user c 0 1
        let receiver ← contract c 0 0
        c.relayedCallRefusedV1 host relayer sender receiver 1 }]

/-- The whole battery, in order. -/
def scenarios (c : Composer) (host : Host m) : List (Scenario m) :=
  transfers c host ++ relayed c host ++ contracts c host

/-! ### Running -/

/-- Announces a scenario, builds its transaction and sends it. -/
def runOne (courier : Courier) (host : Host m) (s : Scenario m) : Run m String := do
  Run.act (host.info s.title)
  let t ← s.build
  courier.send host t

/-- Runs scenarios in order, and returns the hashes of what was sent. -/
def runAll (courier : Courier) (host : Host m) (ss : List (Scenario m)) : Run m (List String) := do
  let hashes ← ss.mapM (runOne courier host)
  Run.act (host.info (Decimal.text hashes.length ++ " scenarios submitted"))
  pure hashes

/-- Runs the battery, with or without the scenarios that need the newer protocol. -/
def run (c : Composer) (courier : Courier) (host : Host m) (newer : Bool) :
    Run m (List String) :=
  runAll courier host ((scenarios c host).filter fun s => newer || !s.newer)

end Battery

end ShardClient
