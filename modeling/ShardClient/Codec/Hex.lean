/-
Hexadecimal text: two lower case digits for each byte.

Reading accepts digits of either case.  It works on the bytes of the text, so that the
position in an error counts bytes, and an offending byte is shown as the character of that
number whatever character it belonged to.
-/
import ShardClient.Bytes
import ShardClient.Text.Decimal
import ShardClient.Text.Quoted

namespace ShardClient

namespace Hex

/-- The two digits of a byte. -/
def byteChars (b : UInt8) : List Char :=
  [HexDigit.lower (b.toNat / 16), HexDigit.lower (b.toNat % 16)]

/-- The digits of a byte string. -/
def chars (bs : Bytes) : List Char := bs.flatMap byteChars

/-- The digits of a byte string, as a text. -/
def encode (bs : Bytes) : String := String.ofList (chars bs)

/-- Why a text is not hexadecimal. -/
inductive DecodeError where
  | oddLength
  | badDigit (byte : UInt8) (position : Nat)
  deriving DecidableEq, Repr

/-- The wording of a refusal. -/
def DecodeError.message : DecodeError → String
  | .oddLength => "Odd number of digits"
  | .badDigit byte position =>
    "Invalid character " ++ Quoted.char (Char.ofNat byte.toNat) ++ " at position " ++
      Decimal.text position

/-- The value of a digit of either case. -/
def digitValue? (b : UInt8) : Option Nat := HexDigit.value? (Char.ofNat b.toNat)

/-- Reads pairs of digits, the first of which stands at `position`. -/
def decodeFrom (position : Nat) : Bytes → Except DecodeError Bytes
  | [] => .ok []
  | [_] => .error .oddLength
  | a :: b :: rest =>
    match digitValue? a, digitValue? b with
    | some x, some y => do
      let bytes ← decodeFrom (position + 2) rest
      .ok (UInt8.ofNat (x * 16 + y) :: bytes)
    | none, _ => .error (.badDigit a position)
    | _, none => .error (.badDigit b (position + 1))

/-- Reads a text of hexadecimal digits.  An odd number of them is noticed first. -/
def decode (text : Bytes) : Except DecodeError Bytes :=
  if text.length % 2 = 1 then .error .oddLength else decodeFrom 0 text

end Hex

end ShardClient
