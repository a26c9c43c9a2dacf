/-
Calls of the builders.

What a run builds is a sequence of calls, each of one builder with arguments of its own.  Here
a call is a value, so that sequences of calls can be spoken of.  The builders of relayed
transactions stand apart because more is said of them.
-/
import ShardClient.Composer
import ShardClient.Proofs.Run.Recording
import ShardClient.Proofs.Transaction.Carried

namespace ShardClient

/-- A call of a builder of relayed transactions. -/
inductive RelayedCall where
  | moveV1 (relayer sender : Account) (receiver : Address) (amount : Amount)
  | tokensV1 (relayer sender : Account) (receiver : Address) (amount : Amount)
  | refusedV1 (relayer sender : Account) (contract : Address) (amount : Amount)
  | moveV2 (relayer sender : Account) (receiver : Address) (amount : Amount)
  | movesV3 (relayer : Account) (senders : List Account) (receivers : List Address)
    (amount : Amount)

/-- A call of a builder. -/
inductive Call where
  | nativeAirdrops
  | issuance (name : String)
  | tokenAirdrops
  | adderDeployments
  | move (sender : Account) (receiver : Address)
  | overdraw (sender : Account) (receiver : Address)
  | moveBoth (sender : Account) (receiver : Address)
  | relayed (call : RelayedCall)
  | deploy (sender : Account) (amount : Amount)
  | deployRefused (sender : Account) (amount : Amount)
  | callRefused (sender : Account) (contract : Address) (amount : Amount)
  | claimRewards (sender : Account) (contract : Address)

namespace RelayedCall

variable {m : Type → Type} [Monad m]

/-- The account that relays. -/
def payer : RelayedCall → Account
  | moveV1 relayer .. | tokensV1 relayer .. | refusedV1 relayer .. | moveV2 relayer ..
  | movesV3 relayer .. => relayer

/-- The accounts that send the transactions inside, in order. -/
def signers : RelayedCall → List Account
  | moveV1 _ sender .. | tokensV1 _ sender .. | refusedV1 _ sender .. | moveV2 _ sender .. =>
    [sender]
  | movesV3 _ senders .. => senders

/-- The address that relays. -/
def relayer (call : RelayedCall) : Address := call.payer.address

/-- The addresses that send the transactions inside, in order. -/
def senders (call : RelayedCall) : List Address := call.signers.map (·.address)

/-- The accounts that receive the transactions inside, in order. -/
def receivers : RelayedCall → List Address
  | moveV1 _ _ receiver _ | tokensV1 _ _ receiver _ | refusedV1 _ _ receiver _
  | moveV2 _ _ receiver _ => [receiver]
  | movesV3 _ _ receivers _ => receivers

/-- Makes the call. -/
def perform (c : Composer) (host : Host m) : RelayedCall → Run m Signed
  | moveV1 relayer sender receiver amount => c.relayedMoveV1 host relayer sender receiver amount
  | tokensV1 relayer sender receiver amount =>
    c.relayedTokensV1 host relayer sender receiver amount
  | refusedV1 relayer sender contract amount =>
    c.relayedCallRefusedV1 host relayer sender contract amount
  | moveV2 relayer sender receiver amount => c.relayedMoveV2 host relayer sender receiver amount
  | movesV3 relayer senders receivers amount =>
    c.relayedMovesV3 host relayer senders receivers amount

end RelayedCall

/-- Makes the call; the result are the transactions that are returned, in order. -/
def Call.perform {m : Type → Type} [Monad m] (c : Composer) (host : Host m) :
    Call → Run m (List Signed)
  | nativeAirdrops => c.nativeAirdrops host
  | issuance name => do return [← c.issuance host name]
  | tokenAirdrops => c.tokenAirdrops host
  | adderDeployments => do return (← c.adderDeployments host).map (·.1)
  | move sender receiver => do return [← c.move host sender receiver]
  | overdraw sender receiver => do return [← c.overdraw host sender receiver]
  | moveBoth sender receiver => do return [← c.moveBoth host sender receiver]
  | relayed call => do return [← call.perform c host]
  | deploy sender amount => do return [← c.deploy host sender amount]
  | deployRefused sender amount => do return [← c.deployRefused host sender amount]
  | callRefused sender contract amount => do
    return [← c.callRefused host sender contract amount]
  | claimRewards sender contract => do return [← c.claimRewards host sender contract]

/-- The nonces that a transaction uses, with the accounts that they are of: its own, and those
of the transactions inside it. -/
def Signed.reservations (t : Signed) : List Reservation :=
  (t.sender, t.nonce) :: t.carried.map fun i => (i.sender, i.nonce)

/-! ### A small registry -/

/-- A signer whose signatures are blank. -/
def Signer.blank (b : UInt8) : Signer :=
  ⟨⟨⟨List.replicate 32 b, by simp⟩⟩, fun _ => ⟨⟨List.replicate 64 0, by simp⟩⟩⟩

/-- A composer for a sponsor and two users, without code and without a currency. -/
def Composer.small : Composer where
  registry := Registry.ofSigners (Signer.blank 1) [Signer.blank 2, Signer.blank 3] []
    (Sharding.ofCount 3)
  fees := { chainId := "local" }
  files := ⟨fun _ => .error .notFound⟩
  contractsDir := "contracts"
  currency := none

end ShardClient
