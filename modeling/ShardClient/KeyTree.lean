/-
A tree of secret keys that grows from one seed.

Each node holds a key and a chain code; both are hashed with the number of a branch to give
the node at its end.  All branches are hardened: their numbers have the highest bit set, so a
public key tells nothing about the keys below it.

The users of a network sit side by side at `m/44'/508'/0'/0'/i'`.
-/
import ShardClient.Codec.Utf8
import ShardClient.Hash.Hmac
import ShardClient.Mnemonic.Phrase
import ShardClient.Signature.Scheme

namespace ShardClient

/-- A node of the tree. -/
structure KeyNode where
  secret : SecretKey
  chainCode : Bytes

namespace KeyNode

/-- The node that a digest stands for: the key, then the chain code. -/
def ofDigest (digest : FixedBytes 64) : KeyNode :=
  ⟨⟨⟨digest.bytes.take 32, by simp [digest.length_eq]⟩⟩, digest.bytes.drop 32⟩

/-- The root of the tree. -/
def root (seed : Bytes) : KeyNode :=
  ofDigest ((Hmac.Key.ofBytes (Utf8.encode "ed25519 seed")).hash seed)

/-- The node at the end of a hardened branch. -/
def branch (node : KeyNode) (index : UInt32) : KeyNode :=
  let number := (index ||| 0x80000000).toNat
  ofDigest ((Hmac.Key.ofBytes node.chainCode).hash
    ([0] ++ node.secret.bytes ++ Bytes.ofNatBE 4 number))

/-- The coin type of the network. -/
def coinType : UInt32 := 508

/-- The node whose branches are the users. -/
def users (seed : Bytes) : KeyNode :=
  [44, coinType, 0, 0].foldl branch (root seed)

end KeyNode

/-- The secret keys of the users with the given numbers. -/
def Mnemonic.userKeys (m : Mnemonic) (indices : List UInt32) : List SecretKey :=
  let users := KeyNode.users m.seed
  indices.map fun index => (users.branch index).secret

end ShardClient
