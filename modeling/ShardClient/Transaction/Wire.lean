/-
The canonical JSON form of transactions: what is signed, what is sent, what is hashed.

The members stand in a fixed order.  Those for data, options, relayer and inner transactions
are left out when there is nothing to say.  The form that is signed has no member for the
signature, the form that is sent has it at the end, and apart from it the two are the same.
-/
import ShardClient.Codec.Base64
import ShardClient.Hash.Sha2
import ShardClient.Json.Value
import ShardClient.Transaction.Basic

namespace ShardClient

/-- A member, unless it is to be left out. -/
def memberIf (present : Bool) (name : String) (value : Json) : List (String × Json) :=
  if present then [(name, value)] else []

/-- The members of a transaction, given the forms of those inside it. -/
def Body.members (b : Body) (nonce : UInt64) (inner : List Json) : List (String × Json) :=
  [("nonce", .ofNat nonce.toNat),
    ("value", .ofText (Decimal.text b.value.toNat)),
    ("receiver", .ofText b.receiver.text),
    ("sender", .ofText b.sender.text),
    ("gasPrice", .ofNat b.gasPrice.toNat),
    ("gasLimit", .ofNat b.gasLimit.toNat)] ++
  memberIf (!b.data.isEmpty) "data" (.ofText (Base64.encode b.data)) ++
  [("chainID", .ofText b.chainId),
    ("version", .ofNat b.version.toNat)] ++
  memberIf (b.options != 0) "options" (.ofNat b.options.toNat) ++
  (b.relayer.elim [] fun relayer => [("relayer", .ofText relayer.text)]) ++
  memberIf (!inner.isEmpty) "innerTransactions" (.array inner)

namespace Signed

mutual

/-- The form in which a transaction is sent. -/
def json : Signed → Json
  | ⟨nonce, body, inner, signature⟩ =>
    .ofMembers (body.members nonce (jsonList inner) ++ [("signature", .ofText signature.hex)])

/-- The forms of several transactions. -/
def jsonList : List Signed → List Json
  | [] => []
  | t :: ts => json t :: jsonList ts

end

/-- The text that is sent. -/
def wire (t : Signed) : Bytes := t.json.print

/-- The hash of the text that is sent, in hexadecimal. -/
def hash (t : Signed) : String := Hex.encode (sha256 t.wire).bytes

end Signed

namespace Numbered

/-- The form that is signed. -/
def json (t : Numbered) : Json :=
  .ofMembers (t.draft.members t.nonce (Signed.jsonList t.draft.inner))

/-- The text that is signed. -/
def signingBytes (t : Numbered) : Bytes := t.json.print

/-- Signs with the key that owns the sender. -/
def sign (t : Numbered) (signer : Signer) : Except SignerMismatch Signed :=
  if signer.address = t.sender then
    .ok ⟨t.nonce, t.draft.toBody, t.draft.inner, signer.sign t.signingBytes⟩
  else .error ⟨signer.address, t.sender⟩

end Numbered

/-- Whether the signature is the sender's, over the fields as they are. -/
def Signed.verifies (scheme : SignatureScheme) (t : Signed) : Bool :=
  scheme.verify t.sender t.unsigned.signingBytes t.signature.bytes

end ShardClient
