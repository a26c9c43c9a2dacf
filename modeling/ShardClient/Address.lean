/-
Addresses of accounts and contracts.

An address is 32 bytes: the public key of an account, or a number derived from the deployer
of a contract.  Its text form is base58.  Addresses of contracts begin with eight zero bytes,
and those of the contracts that belong to the metachain with a longer fixed beginning.
-/
import ShardClient.Codec.Base58
import ShardClient.Codec.Hex

namespace ShardClient

/-- An account or contract address. -/
structure Address extends FixedBytes 32
  deriving DecidableEq

/-- Why something is no address. -/
inductive AddressError where
  /-- The text is not base58. -/
  | notBase58 (input : String) (cause : Base58.DecodeError)
  /-- The text is base58, but not of 32 bytes. -/
  | textLength (input : String) (length : Nat)
  /-- The byte string is not 32 bytes long. -/
  | byteLength (bytes : Bytes)
  deriving DecidableEq, Repr

/-- The wording of a refusal. -/
def AddressError.message : AddressError → String
  | .notBase58 input cause => "invalid address " ++ Quoted.text input ++ ": " ++ cause.message
  | .textLength input length =>
    "invalid address " ++ Quoted.text input ++ ": decodes to " ++ Decimal.text length ++ " bytes"
  | .byteLength bytes =>
    "invalid address " ++ Quoted.text (Hex.encode bytes) ++ ": expected 32 bytes, got " ++
      Decimal.text bytes.length

namespace Address

/-- The address with the given bytes. -/
def ofBytes (bytes : Bytes) : Except AddressError Address :=
  if h : bytes.length = 32 then .ok ⟨⟨bytes, h⟩⟩ else .error (.byteLength bytes)

/-- The text form. -/
def text (a : Address) : String := Base58.encode a.bytes

/-- The hexadecimal form, used inside payloads. -/
def hex (a : Address) : String := Hex.encode a.bytes

/-- Reads the text form. -/
def ofText (s : String) : Except AddressError Address :=
  match Base58.decode s with
  | .error e => .error (.notBase58 s e)
  | .ok bytes =>
    if h : bytes.length = 32 then .ok ⟨⟨bytes, h⟩⟩ else .error (.textLength s bytes.length)

/-- The address of 32 zero bytes, which receives deployments. -/
def zero : Address := ⟨⟨List.replicate 32 0, by simp⟩⟩

/-- The beginning of every address that belongs to the metachain, other than `zero`. -/
def metachainStart : Bytes := [0, 0, 0, 0, 0, 0, 0, 0, 0, 1, 0, 0, 0, 0, 0, 0]

/-- The system contract that issues tokens. -/
def tokenSystem : Address :=
  ⟨⟨metachainStart ++ List.replicate 13 0 ++ [2, 0xff, 0xff], by decide⟩⟩

/-- The number of zero bytes in front of every contract address. -/
def contractZeros : Nat := 8

/-- Whether the address is that of a contract. -/
def isContract (a : Address) : Bool := (a.bytes.take contractZeros).all (· == 0)

/-- The last byte, which decides the shard. -/
def lastByte (a : Address) : UInt8 := a.bytes.getLastD 0

/-- The order of addresses is that of their bytes. -/
def before (a b : Address) : Bool := Bytes.toNatBE a.bytes ≤ Bytes.toNatBE b.bytes

/-- The address as it appears in listings. -/
def listing (a : Address) : String := "Address(" ++ a.text ++ ")"

end Address

end ShardClient
