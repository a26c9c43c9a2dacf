/-
Payloads: what a transaction asks the network to do, as a text.

A payload is a head and arguments, each behind an `@`.  Arguments are hexadecimal: numbers by
their bytes, as few as possible but at least one; names by the bytes of their text; truth
values by their names.
-/
import ShardClient.Codec.Hex
import ShardClient.Codec.Utf8
import ShardClient.Gas

namespace ShardClient

namespace Payload

/-- A number as an argument. -/
def unsigned (n : Amount) : String :=
  if n.toNat = 0 then "00" else Hex.encode (Bytes.minimalBE n.toNat)

/-- A smaller number as an argument. -/
def unsigned64 (n : UInt64) : String := unsigned (BitVec.ofNat _ n.toNat)

/-- A name as an argument. -/
def name (s : String) : String := Hex.encode (Utf8.encode s)

/-- A truth value as an argument. -/
def flag (b : Bool) : String := name (if b then "true" else "false")

/-- The text of a head with arguments. -/
def text (head : String) (arguments : List String) : String :=
  arguments.foldl (fun s argument => s ++ "@" ++ argument) head

/-- The payload of a head with arguments. -/
def join (head : String) (arguments : List String) : Bytes := Utf8.encode (text head arguments)

end Payload

end ShardClient
