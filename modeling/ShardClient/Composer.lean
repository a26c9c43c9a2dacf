/-
Building the transactions of a run: each is drafted, numbered and signed here.

Every builder takes the same steps.  What can be found wrong beforehand is: a missing currency,
unreadable code, an account that is not managed.  Then nonces are reserved and the
transactions signed.  The nonce of a relayer is reserved before those of the inner senders; so
when a relayer is also an inner sender its envelope has the lower nonce, and is executed
first.
-/
import ShardClient.Contract
import ShardClient.Issuance
import ShardClient.NonceTable
import ShardClient.Registry
import ShardClient.Transfer

namespace ShardClient

/-- What the builders need besides nonces. -/
structure Composer where
  registry : Registry
  fees : FeeSchedule
  files : FileStore
  /-- The path of the directory that holds the code of the contracts. -/
  contractsDir : String
  /-- The identifier of the token for token transfers. -/
  currency : Option String

namespace Composer

/-! ### Amounts, gas and arguments -/

def simpleAmount : Amount := 42

/-- More than any test account holds. -/
def excessiveAmount : Amount := 1000000000000000000000000

def tokenAmountBesideNative : Amount := 7
def nativeGift : Amount := 1000000000000000000
def tokenGift : Amount := 1000000
def issuedSupply : Amount := 1000000000
def issuedDecimals : UInt32 := 2

/-- Added to plain transfers, so that part of the gas is given back. -/
def refundedGas : Gas := 42000

def contractGas : Gas := 5000000
def claimGas : Gas := 8000000

/-- For the execution of the inner transaction of an envelope of version two. -/
def relayedV2InnerGas : Gas := 100000

/-- Accepted by the constructors of the test contracts. -/
def initialValue : List Amount := [0]

/-- Refused by the constructor of the adder and by all functions of the test contracts. -/
def refusedArguments : List Amount := [1, 2, 3, 4, 5]

/-- The file that holds the code of the adder. -/
def adderFile : String := "adder.wasm"

/-- The file that holds the code of the contract that does nothing. -/
def dummyFile : String := "dummy.wasm"

variable {m : Type → Type} [Monad m]

/-! ### Nonces and signatures -/

/-- The managed account with the given address. -/
def managed (c : Composer) (address : Address) : Run m Account :=
  Run.ofExcept .lookup (c.registry.account address)

/-- Signs with the managed account that is the sender. -/
def sign (c : Composer) (t : Numbered) : Run m Signed := do
  let account ← c.managed t.sender
  Run.ofExcept .signer (t.sign account.signer)

/-- Numbers a draft with the next nonce of its sender, and signs it. -/
def finish (c : Composer) (host : Host m) (d : Draft) : Run m Signed := do
  let account ← c.managed d.sender
  let nonce ← reserveNonce host account.address
  c.sign (d.number nonce)

/-- Reserves the nonce of a relayer.  The inner senders and the relayer are looked up before, so
that nothing is reserved if one of them is not managed. -/
def reserveRelayer (c : Composer) (host : Host m) (relayer : Account)
    (senders : List Account) : Run m UInt64 := do
  senders.forM fun sender => discard (c.managed sender.address)
  let account ← c.managed relayer.address
  reserveNonce host account.address

/-- The token for token transfers. -/
def token (c : Composer) : Run m Token :=
  match c.currency with
  | some identifier => pure ⟨identifier, 0⟩
  | none => throw (.configuration .missingCurrency)

/-- The code of a test contract. -/
def code (c : Composer) (file : String) : Run m Bytes :=
  Run.ofExcept .code (c.files.readCode (FileStore.join c.contractsDir file))

/-- Signs an envelope of version one around a transaction. -/
def relayV1 (c : Composer) (host : Host m) (relayer : Account) (relayerNonce : UInt64)
    (d : Draft) : Run m Signed := do
  let inner ← c.finish host d
  c.sign ((Draft.relayedV1 c.fees inner relayer.address).number relayerNonce)

/-! ### Preparing a network -/

/-- One native transfer from the sponsor to every user. -/
def nativeAirdrops (c : Composer) (host : Host m) : Run m (List Signed) :=
  c.registry.users.mapM fun user =>
    c.finish host (Draft.nativeTransfer c.fees c.registry.sponsor.address user.address
      nativeGift)

/-- Issues a token, which the sponsor will own; its name is also its ticker. -/
def issuance (c : Composer) (host : Host m) (name : String) : Run m Signed :=
  c.finish host (Draft.issuance c.fees c.registry.sponsor.address
    { name := name, ticker := name, supply := issuedSupply, decimals := issuedDecimals })

/-- One token transfer from the sponsor to every user. -/
def tokenAirdrops (c : Composer) (host : Host m) : Run m (List Signed) := do
  let token ← c.token
  c.registry.users.mapM fun user =>
    c.finish host (Draft.tokenTransfer c.fees c.registry.sponsor.address user.address
      [⟨token, tokenGift⟩])

/-- Deploys the adder from the first user of a shard.  The deployment comes with the address that
the contract will have. -/
def adderDeployment (c : Composer) (host : Host m) (code : Bytes) (shard : ShardId) :
    Run m (Signed × Address) := do
  let deployer ← Run.ofExcept .lookup (c.registry.user shard 0)
  let t ← c.finish host (Draft.deployment c.fees deployer.address code contractGas initialValue 0 {})
  let contract := Sharding.contractAddress deployer.address t.nonce
  Run.act (host.info ("shard " ++ Decimal.text shard.toNat ++ ": adder will be deployed at " ++
    contract.text))
  pure (t, contract)

/-- Deploys the adder in `count` shards, from the given one on. -/
def adderDeploymentsFrom (c : Composer) (host : Host m) (code : Bytes) (shard : Nat) :
    (count : Nat) → Run m (List (Signed × Address))
  | 0 => pure []
  | count + 1 => do
    let first ← c.adderDeployment host code (UInt32.ofNat shard)
    let rest ← c.adderDeploymentsFrom host code (shard + 1) count
    pure (first :: rest)

/-- Deploys the adder in every shard. -/
def adderDeployments (c : Composer) (host : Host m) : Run m (List (Signed × Address)) := do
  let code ← c.code adderFile
  c.adderDeploymentsFrom host code 0 c.registry.sharding.count.toNat

/-! ### Transfers -/

/-- A native transfer that carries more gas than it needs. -/
def overpaid (c : Composer) (host : Host m) (sender : Account) (receiver : Address)
    (amount : Amount) : Run m Signed :=
  let d := Draft.nativeTransfer c.fees sender.address receiver amount
  c.finish host { d with gasLimit := d.gasLimit.plus refundedGas }

/-- A native transfer with gas to be refunded. -/
def move (c : Composer) (host : Host m) (sender : Account) (receiver : Address) : Run m Signed :=
  c.overpaid host sender receiver simpleAmount

/-- The same, for an amount that the sender cannot afford. -/
def overdraw (c : Composer) (host : Host m) (sender : Account) (receiver : Address) :
    Run m Signed :=
  c.overpaid host sender receiver excessiveAmount

/-- A native amount and tokens in one transfer. -/
def moveBoth (c : Composer) (host : Host m) (sender : Account) (receiver : Address) :
    Run m Signed := do
  let token ← c.token
  c.finish host (Draft.transfer c.fees sender.address receiver simpleAmount
    [⟨token, tokenAmountBesideNative⟩])

/-! ### Relayed transactions -/

/-- A relayed native transfer, version one. -/
def relayedMoveV1 (c : Composer) (host : Host m) (relayer sender : Account) (receiver : Address)
    (amount : Amount) : Run m Signed := do
  let nonce ← c.reserveRelayer host relayer [sender]
  c.relayV1 host relayer nonce (Draft.nativeTransfer c.fees sender.address receiver amount)

/-- A relayed token transfer, version one. -/
def relayedTokensV1 (c : Composer) (host : Host m) (relayer sender : Account)
    (receiver : Address) (amount : Amount) : Run m Signed := do
  let token ← c.token
  let nonce ← c.reserveRelayer host relayer [sender]
  c.relayV1 host relayer nonce
    (Draft.tokenTransfer c.fees sender.address receiver [⟨token, amount⟩])

/-- A relayed native transfer, version two: the inner transaction has no gas of its own. -/
def relayedMoveV2 (c : Composer) (host : Host m) (relayer sender : Account) (receiver : Address)
    (amount : Amount) : Run m Signed := do
  let nonce ← c.reserveRelayer host relayer [sender]
  let d := Draft.nativeTransfer c.fees sender.address receiver amount
  let inner ← c.finish host { d with gasLimit := 0 }
  let envelope ← Run.ofExcept .relay
    (Draft.relayedV2 c.fees inner relayedV2InnerGas relayer.address)
  c.sign (envelope.number nonce)

/-- Relayed native transfers, version three: each sender to the receiver in its place. -/
def relayedMovesV3 (c : Composer) (host : Host m) (relayer : Account) (senders : List Account)
    (receivers : List Address) (amount : Amount) : Run m Signed := do
  if senders.length ≠ receivers.length then
    throw (.pairing (.unequal senders.length receivers.length))
  if senders.isEmpty then throw (.pairing .empty)
  let nonce ← c.reserveRelayer host relayer senders
  let inners ← (senders.zip receivers).mapM fun p =>
    let d := Draft.nativeTransfer c.fees p.1.address p.2 amount
    c.finish host { d with relayer := some relayer.address }
  let envelope ← Run.ofExcept .relay (Draft.relayedV3 c.fees relayer.address inners)
  c.sign (envelope.number nonce)

/-! ### Contracts -/

/-- Deploys a contract to which a native amount is sent along. -/
def deploy (c : Composer) (host : Host m) (sender : Account) (amount : Amount) : Run m Signed := do
  let code ← c.code dummyFile
  c.finish host (Draft.deployment c.fees sender.address code contractGas initialValue amount {})

/-- The same, with arguments that the constructor refuses. -/
def deployRefused (c : Composer) (host : Host m) (sender : Account) (amount : Amount) :
    Run m Signed := do
  let code ← c.code adderFile
  c.finish host (Draft.deployment c.fees sender.address code contractGas refusedArguments amount {})

/-- Calls a function that the contract does not have. -/
def callRefused (c : Composer) (host : Host m) (sender : Account) (contract : Address)
    (amount : Amount) : Run m Signed :=
  c.finish host (Draft.call c.fees sender.address contract "missingFunction" contractGas
    refusedArguments amount)

/-- Claims what the owner of a contract has earned. -/
def claimRewards (c : Composer) (host : Host m) (sender : Account) (contract : Address) :
    Run m Signed :=
  c.finish host (Draft.call c.fees sender.address contract "ClaimDeveloperRewards" claimGas [] 0)

/-- A relayed call, version one, with arguments that the contract refuses. -/
def relayedCallRefusedV1 (c : Composer) (host : Host m) (relayer sender : Account)
    (contract : Address) (amount : Amount) : Run m Signed := do
  let nonce ← c.reserveRelayer host relayer [sender]
  c.relayV1 host relayer nonce
    (Draft.call c.fees sender.address contract "add" contractGas refusedArguments amount)

end Composer

end ShardClient
