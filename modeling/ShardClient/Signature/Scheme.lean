/-
Signatures, and what the rest of the library knows of a way to make them.

A scheme derives the public key from a secret one, signs, and verifies.  Only one scheme is in
use, but nothing outside this folder depends on which: a signer is an address and the power to
sign for it, and a signature is judged under the address of the account alone.
-/
import ShardClient.Address
import ShardClient.Codec.Utf8
import ShardClient.Text.Blank

namespace ShardClient

/-- A signature. -/
structure Signature extends FixedBytes 64
  deriving DecidableEq

/-- The hexadecimal form. -/
def Signature.hex (s : Signature) : String := Hex.encode s.bytes

/-- A secret key. -/
structure SecretKey extends FixedBytes 32
  deriving DecidableEq

/-- Why something is no secret key. -/
inductive SecretKeyError where
  | notHex (cause : Hex.DecodeError)
  | wrongLength
  deriving DecidableEq, Repr

/-- The wording of a refusal. -/
def SecretKeyError.message : SecretKeyError → String
  | .notHex cause => "invalid secret key: " ++ cause.message
  | .wrongLength => "invalid secret key: signature error: SecretKey must be 32 bytes in length"

/-- The secret key with the given bytes. -/
def SecretKey.ofBytes (bytes : Bytes) : Except SecretKeyError SecretKey :=
  if h : bytes.length = 32 then .ok ⟨⟨bytes, h⟩⟩ else .error .wrongLength

/-- The secret key that a text spells in hexadecimal.  White space around it does not matter. -/
def SecretKey.ofText (text : String) : Except SecretKeyError SecretKey :=
  match Hex.decode (Utf8.encode (String.ofList (Blank.trim text.toList))) with
  | .error cause => .error (.notHex cause)
  | .ok bytes => ofBytes bytes

/-- A way to sign.  The public key of an account is its address. -/
structure SignatureScheme where
  publicKey : SecretKey → Address
  sign : SecretKey → Bytes → Signature
  /-- Whether a byte string of any length is a signature of the message. -/
  verify : Address → Bytes → Bytes → Bool

/-- A signature verifies under the public key of the key that made it. -/
def SignatureScheme.Correct (scheme : SignatureScheme) : Prop :=
  ∀ key message,
    scheme.verify (scheme.publicKey key) message (scheme.sign key message).bytes = true

/-- Signs on behalf of one address. -/
structure Signer where
  address : Address
  sign : Bytes → Signature

/-- The signer that owns a secret key. -/
def Signer.ofKey (scheme : SignatureScheme) (key : SecretKey) : Signer :=
  ⟨scheme.publicKey key, scheme.sign key⟩

/-- The signer as it appears in listings: without its key. -/
def Signer.listing (s : Signer) : String :=
  "UserSigner \x7b address: " ++ s.address.listing ++ ", .. \x7d"

/-- A secret key as it appears in listings. -/
def SecretKey.listing (_ : SecretKey) : String := "UserSecretKey(..)"

end ShardClient
