/-
Which shard owns an address, and where a deployed contract will live.

Accounts are spread over the shards by the lowest bits of their last byte.  Just enough bits
are taken to name every shard; when they name one that does not exist, the highest of them is
dropped.  System addresses live apart, on the metachain.

A contract address keeps the last two bytes of its deployer, and so its shard.
-/
import ShardClient.Address
import ShardClient.Hash.Keccak

namespace ShardClient

/-- The number of a shard. -/
abbrev ShardId := UInt32

/-- The number of the metachain. -/
def metachain : ShardId := 0xffffffff

/-- A network divided into at least one shard. -/
structure Sharding where
  count : UInt32
  count_pos : 0 < count.toNat
  deriving DecidableEq

namespace Sharding

/-- A network divided into `count` shards; none counts as one. -/
def ofCount (count : UInt32) : Sharding :=
  if h : 0 < count.toNat then ⟨count, h⟩ else ⟨1, by decide⟩

/-- The number of binary digits of `n`. -/
def bitLength (n : Nat) : Nat := if n = 0 then 0 else n.log2 + 1

/-- The number whose `bits` lowest binary digits are one. -/
def mask (bits : Nat) : Nat := (1 <<< bits) - 1

/-- Whether the address belongs to the metachain. -/
def onMetachain (a : Address) : Bool :=
  a = Address.zero || Address.metachainStart.isPrefixOf a.bytes

/-- The shard that a last byte leads to. -/
def shardOfByte (s : Sharding) (last : UInt8) : Nat :=
  let bits := bitLength (s.count.toNat - 1)
  let shard := last.toNat &&& mask bits
  if shard > s.count.toNat - 1 then last.toNat &&& mask (bits - 1) else shard

/-- The shard that owns an address. -/
def home (s : Sharding) (a : Address) : ShardId :=
  if onMetachain a then metachain else UInt32.ofNat (s.shardOfByte a.lastByte)

/-- The marker of the virtual machine, behind the zeros of a contract address. -/
def machineMarker : Bytes := [5, 0]

/-- The contract address made from a digest: zeros and the marker of the virtual machine, twenty
bytes of the digest, and the last two bytes of the deployer. -/
def contractOfDigest (deployer : Address) (digest : FixedBytes 32) : Address :=
  ⟨⟨List.replicate Address.contractZeros 0 ++ machineMarker ++ (digest.bytes.drop 10).take 20 ++
      deployer.bytes.drop 30, by
    simp [Address.contractZeros, machineMarker, digest.length_eq, deployer.length_eq]⟩⟩

/-- The address of the contract that `deployer` creates with the transaction of the given nonce. -/
def contractAddress (deployer : Address) (nonce : UInt64) : Address :=
  contractOfDigest deployer (keccak256 (deployer.bytes ++ Bytes.ofNatLE 8 nonce.toNat))

end Sharding

end ShardClient
