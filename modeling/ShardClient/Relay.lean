/-
Relayed transactions: a relayer pays for transactions that others sign.

The relayer sends an envelope.  In version one the inner transaction is embedded in the
payload, as it would have been sent.  In version two the payload lists only what the network
cannot know otherwise, and the inner transaction has no gas of its own.  In version three one
envelope, which the relayer sends to itself, carries several inner transactions, all of which
name the relayer.
-/
import ShardClient.Payload
import ShardClient.Transaction.Wire

namespace ShardClient

/-- Why transactions cannot be relayed together. -/
inductive RelayError where
  /-- The inner transaction of an envelope of version two has gas of its own. -/
  | innerGas (gas : Gas)
  /-- There is nothing to relay. -/
  | noInner
  /-- An inner transaction does not name the relayer. -/
  | untagged (sender relayer : Address)
  deriving DecidableEq

/-- The wording of a refusal. -/
def RelayError.message : RelayError → String
  | .innerGas gas =>
    "invalid relayed transaction: relayed v2 inner transaction must have zero gas limit, got " ++
      Decimal.text gas.toNat
  | .noInner =>
    "invalid relayed transaction: relayed v3 requires at least one inner transaction"
  | .untagged sender relayer =>
    "invalid relayed transaction: inner transaction from " ++ sender.text ++
      " is not tagged with relayer " ++ relayer.text

namespace Draft

/-- An envelope around one transaction: it goes to the inner sender, at the inner gas price, with
gas for its payload and for the inner transaction. -/
def envelope (fees : FeeSchedule) (relayer : Address) (inner : Signed) (data : Bytes)
    (innerGas : Gas) : Draft :=
  { blank fees relayer inner.sender with
    gasLimit := (fees.gasToCarry data.length).plus innerGas
    gasPrice := inner.body.gasPrice
    data := data }

/-- Relays a transaction that is embedded whole. -/
def relayedV1 (fees : FeeSchedule) (inner : Signed) (relayer : Address) : Draft :=
  envelope fees relayer inner (Payload.join "relayedTx" [Hex.encode inner.wire])
    inner.body.gasLimit

/-- Relays a transaction by its receiver, nonce, payload and signature, with `innerGas` for its
execution. -/
def relayedV2 (fees : FeeSchedule) (inner : Signed) (innerGas : Gas) (relayer : Address) :
    Except RelayError Draft :=
  if inner.body.gasLimit ≠ 0 then .error (.innerGas inner.body.gasLimit)
  else
    let data := Payload.join "relayedTxV2"
      [inner.body.receiver.hex, Payload.unsigned64 inner.nonce, Hex.encode inner.body.data,
        inner.signature.hex]
    .ok (envelope fees relayer inner data innerGas)

/-- Relays several transactions at once. -/
def relayedV3 (fees : FeeSchedule) (relayer : Address) (inners : List Signed) :
    Except RelayError Draft :=
  if inners.isEmpty then .error .noInner
  else
    match inners.find? (fun t => t.body.relayer != some relayer) with
    | some t => .error (.untagged t.sender relayer)
    | none =>
      let innerGas := inners.foldl (fun total t => total.plus t.body.gasLimit) (0 : Gas)
      .ok { blank fees relayer relayer with
        gasPrice := fees.gasPrice
        gasLimit := (fees.minGas.times (Gas.ofNatSat inners.length)).plus innerGas
        inner := inners }

end Draft

end ShardClient
