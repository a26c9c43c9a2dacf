/-
Base58 with the alphabet that leaves out `0`, `O`, `I` and `l`.

A byte string is a number written in base 58, with one `1` in front for each leading zero
byte, since zero bytes in front do not change the number.  Reading undoes both.
-/
import ShardClient.Bytes
import ShardClient.Text.Decimal
import ShardClient.Text.Quoted

namespace ShardClient

namespace Base58

/-- The digits in order of value. -/
def alphabet : List Char :=
  "123456789ABCDEFGHJKLMNPQRSTUVWXYZabcdefghijkmnopqrstuvwxyz".toList

/-- The character of a digit. -/
def digitChar (d : Nat) : Char := alphabet.getD d '1'

/-- The value of a character of the alphabet. -/
def digitValue? (c : Char) : Option Nat := alphabet.findIdx? (· == c)

/-- The characters of a byte string. -/
def chars (bs : Bytes) : List Char :=
  (bs.takeWhile (· == 0)).map (fun _ => '1') ++
    (Radix.digits 58 (Bytes.toNatBE bs)).map digitChar

/-- The text of a byte string. -/
def encode (bs : Bytes) : String := String.ofList (chars bs)

/-- Why a text is not base58: the first character outside the alphabet, and the byte of the
text at which it starts. -/
inductive DecodeError where
  | badChar (c : Char) (position : Nat)
  | notAscii (position : Nat)
  deriving DecidableEq, Repr

/-- The wording of a refusal. -/
def DecodeError.message : DecodeError → String
  | .badChar c position =>
    "provided string contained invalid character " ++ Quoted.char c ++ " at byte " ++
      Decimal.text position
  | .notAscii position =>
    "provided string contained non-ascii character starting at byte " ++ Decimal.text position

/-- The values of the characters, the first of which starts at byte `position`.  All characters
in front of an offending one are of the alphabet and one byte long. -/
def valuesFrom (position : Nat) : List Char → Except DecodeError (List Nat)
  | [] => .ok []
  | c :: cs =>
    match digitValue? c with
    | some d => do
      let ds ← valuesFrom (position + 1) cs
      .ok (d :: ds)
    | none => .error (if c.toNat < 128 then .badChar c position else .notAscii position)

/-- The bytes that base58 digits spell. -/
def ofValues (ds : List Nat) : Bytes :=
  (ds.takeWhile (· == 0)).map (fun _ => 0) ++ Bytes.minimalBE (Radix.ofDigits 58 ds)

/-- Reads a text. -/
def decode (s : String) : Except DecodeError Bytes :=
  (valuesFrom 0 s.toList).map ofValues

end Base58

end ShardClient
