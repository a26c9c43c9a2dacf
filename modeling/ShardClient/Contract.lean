/-
Contracts: deploying their code and calling them.
-/
import ShardClient.Payload
import ShardClient.Transaction.Basic

namespace ShardClient

/-- What may be done with a deployed contract. -/
structure Permissions where
  upgradeable : Bool := true
  readable : Bool := true
  payable : Bool := false
  payableByContract : Bool := false
  deriving DecidableEq

/-- The two bytes that stand for the metadata: one bit for each permission. -/
def Permissions.bytes (m : Permissions) : Bytes :=
  [(if m.upgradeable then 1 else 0) ||| (if m.readable then 4 else 0),
    (if m.payable then 2 else 0) ||| (if m.payableByContract then 4 else 0)]

namespace Draft

/-- A transaction that carries a payload for a contract under a gas limit of the caller's choice. -/
def forContract (fees : FeeSchedule) (sender receiver : Address) (data : Bytes) (gas : Gas)
    (amount : Amount) : Draft :=
  { blank fees sender receiver with
    gasLimit := gas
    gasPrice := fees.gasPrice
    value := amount
    data := data }

/-- The marker of the virtual machine in a deployment. -/
def machineArgument : String := "0500"

/-- Deploys code.  The payload is the code, the marker of the virtual machine, the metadata and
the arguments of the constructor; the receiver is the zero address. -/
def deployment (fees : FeeSchedule) (sender : Address) (code : Bytes) (gas : Gas)
    (arguments : List Amount) (amount : Amount) (metadata : Permissions) : Draft :=
  let data := Payload.join (Hex.encode code)
    (machineArgument :: Hex.encode metadata.bytes :: arguments.map Payload.unsigned)
  forContract fees sender Address.zero data gas amount

/-- Calls a function of a contract. -/
def call (fees : FeeSchedule) (sender contract : Address) (function : String) (gas : Gas)
    (arguments : List Amount) (amount : Amount) : Draft :=
  let data := Payload.join function (arguments.map Payload.unsigned)
  forContract fees sender contract data gas amount

end Draft

end ShardClient
