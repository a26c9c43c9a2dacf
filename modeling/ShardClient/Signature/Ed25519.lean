/-
Ed25519.

A secret key is hashed to a scalar and to the seed of its nonces.  A signature is the code of
a point and a scalar; it is checked without the cofactor, by computing the point anew and
comparing codes byte for byte.  The scalar has to be reduced, while public keys of small
order, and codes beyond the field, are accepted.
-/
import ShardClient.Hash.Sha2
import ShardClient.Signature.Edwards
import ShardClient.Signature.Scheme

namespace ShardClient

namespace Ed25519

open Edwards

/-- What a secret key expands to: its scalar, and the seed of its nonces. -/
structure Expanded where
  scalar : Nat
  seed : Bytes

/-- What the highest bit of a scalar stands for. -/
def scalarBit : Nat := 1 <<< 254

/-- Expands a secret key.  The scalar has its highest bit set and is a multiple of eight. -/
def expand (key : SecretKey) : Expanded :=
  let digest := (sha512 key.bytes).bytes
  let n := Bytes.toNatLE (digest.take 32)
  ⟨scalarBit + n % scalarBit / 8 * 8, digest.drop 32⟩

/-- The bytes of a point. -/
def pointBytes (q : Point) : Bytes := Bytes.ofNatLE 32 q.encode

/-- The number, modulo the order of the base point, that a byte string hashes to. -/
def hashToScalar (bs : Bytes) : Nat := Bytes.toNatLE (sha512 bs).bytes % order

/-- The public key of a secret key. -/
def publicKey (key : SecretKey) : Address :=
  ⟨⟨pointBytes (base.multiple (expand key).scalar), by simp [pointBytes]⟩⟩

/-- Signs with an expanded key, whose public key is given. -/
def signWith (key : Expanded) (owner : Address) (message : Bytes) : Signature :=
  let r := hashToScalar (key.seed ++ message)
  let code := pointBytes (base.multiple r)
  let k := hashToScalar (code ++ owner.bytes ++ message)
  let s := (r + k * key.scalar) % order
  ⟨⟨code ++ Bytes.ofNatLE 32 s, by simp [code, pointBytes]⟩⟩

/-- Signs a message. -/
def sign (key : SecretKey) (message : Bytes) : Signature :=
  signWith (expand key) (publicKey key) message

/-- Whether a byte string is a signature of the message by the owner of the address. -/
def verify (owner : Address) (message signature : Bytes) : Bool :=
  let code := signature.take 32
  let s := Bytes.toNatLE (signature.drop 32)
  signature.length = 64 && s < order &&
    match Point.decode? (Bytes.toNatLE owner.bytes) with
    | none => false
    | some q =>
      let k := hashToScalar (code ++ owner.bytes ++ message)
      pointBytes ((base.multiple s).add (q.neg.multiple k)) == code

end Ed25519

/-- The scheme in use. -/
def ed25519 : SignatureScheme := ⟨Ed25519.publicKey, Ed25519.sign, Ed25519.verify⟩

end ShardClient
