/-
Issuing a fungible token, and finding out what the network called it.
-/
import ShardClient.Network.Basic
import ShardClient.Payload

namespace ShardClient

/-- A fungible token to be issued. -/
structure Issuance where
  name : String
  ticker : String
  supply : Amount
  decimals : UInt32
  canFreeze : Bool := true
  canWipe : Bool := true
  canPause : Bool := true
  canChangeOwner : Bool := true
  canUpgrade : Bool := true
  canAddSpecialRoles : Bool := true
  deriving DecidableEq

namespace Issuance

/-- The properties of the token, by name. -/
def properties (i : Issuance) : List (String × Bool) :=
  [("canFreeze", i.canFreeze), ("canWipe", i.canWipe), ("canPause", i.canPause),
    ("canChangeOwner", i.canChangeOwner), ("canUpgrade", i.canUpgrade),
    ("canAddSpecialRoles", i.canAddSpecialRoles)]

/-- The arguments of the payload: the token, then each property and whether it holds. -/
def arguments (i : Issuance) : List String :=
  [Payload.name i.name, Payload.name i.ticker, Payload.unsigned i.supply,
    Payload.unsigned (BitVec.ofNat _ i.decimals.toNat)] ++
  i.properties.flatMap fun p => [Payload.name p.1, Payload.flag p.2]

/-- The identifiers of the tokens that an outcome announces: the first topic of each event of
issuance that has one. -/
def identifiers (outcome : Outcome) : List String :=
  (outcome.events.filter (·.identifier == "issue")).filterMap fun event =>
    event.topics.head?.map Utf8.decodeLossy

end Issuance

/-- Issues a token, at the price of the network. -/
def Draft.issuance (fees : FeeSchedule) (sender : Address) (i : Issuance) : Draft :=
  { blank fees sender Address.tokenSystem with
    gasLimit := fees.issuanceGas
    gasPrice := fees.gasPrice
    value := fees.issuanceCost
    data := Payload.join "issue" i.arguments }

end ShardClient
