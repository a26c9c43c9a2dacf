/-
Percent-encoding: characters written by their bytes.

Controls and everything outside ASCII are always written that way.  What else is depends on
the part of an address that a character stands in.
-/
import ShardClient.Codec.Utf8
import ShardClient.Text.HexDigit

namespace ShardClient

namespace Percent

/-- A byte by its number. -/
def byte (b : UInt8) : List Char :=
  ['%', HexDigit.upper (b.toNat / 16), HexDigit.upper (b.toNat % 16)]

/-- A text with some characters written by their bytes: those listed, controls, and those
outside ASCII. -/
def encode (special : List Char) (cs : List Char) : List Char :=
  cs.flatMap fun c =>
    if c.toNat < 0x20 || c.toNat ≥ 0x7f || special.contains c then
      (String.utf8EncodeChar c).flatMap byte
    else [c]

/-- The bytes of a text in which bytes may be written by their numbers.  A percent sign without
two digits behind it stands for itself. -/
def decode (cs : List Char) : Bytes :=
  match cs with
  | [] => []
  | c :: rest =>
    match if c == '%' then digits? rest else none with
    | some b => b :: decode (rest.drop 2)
    | none => String.utf8EncodeChar c ++ decode rest
termination_by cs.length
decreasing_by all_goals simp; try omega
where
  /-- The byte that two digits stand for. -/
  digits? : List Char → Option UInt8
    | a :: b :: _ => do return UInt8.ofNat ((← HexDigit.value? a) * 16 + (← HexDigit.value? b))
    | _ => none

end Percent

end ShardClient
