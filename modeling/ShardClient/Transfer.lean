/-
Transfers of the native currency and of tokens.

A native amount travels in the value of a transaction.  Tokens travel in the payload: a single
fungible one as `ESDTTransfer`, anything else as `MultiESDTNFTTransfer`, which is addressed to
the sender itself and names the true receiver.  A native amount beside tokens becomes one more
entry under an identifier of its own.
-/
import ShardClient.Payload
import ShardClient.Transaction.Basic

namespace ShardClient

/-- A token: its identifier, and a nonce that is zero for fungible ones. -/
structure Token where
  identifier : String
  nonce : UInt64 := 0
  deriving DecidableEq

/-- An amount of a token. -/
structure TokenTransfer where
  token : Token
  amount : Amount
  deriving DecidableEq

/-- The identifier of the native currency inside multi-token transfers. -/
def nativeIdentifier : String := "NATIVE-000000"

namespace Draft

/-- A transaction that moves nothing by itself and carries a payload: it pays for the payload's
bytes, and `extra` gas. -/
def carrying (fees : FeeSchedule) (sender receiver : Address) (data : Bytes) (extra : Gas) :
    Draft :=
  { blank fees sender receiver with
    gasLimit := (fees.gasToCarry data.length).plus extra
    gasPrice := fees.gasPrice
    data := data }

/-- Moves an amount of the native currency. -/
def nativeTransfer (fees : FeeSchedule) (sender receiver : Address) (amount : Amount) : Draft :=
  { carrying fees sender receiver [] 0 with value := amount }

/-- The arguments of one entry of a multi-token transfer. -/
def entryArguments (t : TokenTransfer) : List String :=
  [Payload.name t.token.identifier, Payload.unsigned64 t.token.nonce, Payload.unsigned t.amount]

/-- Moves several tokens at once. -/
def bundleTransfer (fees : FeeSchedule) (sender receiver : Address)
    (transfers : List TokenTransfer) : Draft :=
  let count := transfers.length
  let data := Payload.join "MultiESDTNFTTransfer"
    (receiver.hex :: Payload.unsigned (BitVec.ofNat _ count) :: transfers.flatMap entryArguments)
  carrying fees sender sender data
    ((fees.bundleGas.times (Gas.ofNatSat count)).plus fees.bundleExtraGas)

/-- Moves tokens. -/
def tokenTransfer (fees : FeeSchedule) (sender receiver : Address)
    (transfers : List TokenTransfer) : Draft :=
  match transfers with
  | [single] =>
    if single.token.nonce = 0 then
      let data := Payload.join "ESDTTransfer"
        [Payload.name single.token.identifier, Payload.unsigned single.amount]
      carrying fees sender receiver data (fees.tokenTransferGas.plus fees.tokenTransferExtraGas)
    else bundleTransfer fees sender receiver transfers
  | _ => bundleTransfer fees sender receiver transfers

/-- Moves an amount of the native currency, and tokens. -/
def transfer (fees : FeeSchedule) (sender receiver : Address) (amount : Amount)
    (transfers : List TokenTransfer) : Draft :=
  if transfers.isEmpty then nativeTransfer fees sender receiver amount
  else if amount = 0 then tokenTransfer fees sender receiver transfers
  else bundleTransfer fees sender receiver (transfers ++ [⟨⟨nativeIdentifier, 0⟩, amount⟩])

end Draft

end ShardClient
