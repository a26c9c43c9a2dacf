/-
Base64 with the standard alphabet and padding.

Three bytes are four characters; a last group of one or two bytes is filled with `=`.
Reading is strict: the text is a whole number of groups, padding stands only at the end, and
the bits that padding makes superfluous are zero.  So a byte string has exactly one spelling.
-/
import ShardClient.Bytes

namespace ShardClient

namespace Base64

/-- The character for six bits. -/
def digitChar (d : Nat) : Char :=
  if d < 26 then Char.ofNat (65 + d)
  else if d < 52 then Char.ofNat (71 + d)
  else if d < 62 then Char.ofNat (d - 4)
  else if d = 62 then '+'
  else '/'

/-- The characters of a byte string. -/
def chars : Bytes → List Char
  | [] => []
  | [a] =>
    let n := a.toNat * 16
    [digitChar (n / 64), digitChar (n % 64), '=', '=']
  | [a, b] =>
    let n := (a.toNat * 256 + b.toNat) * 4
    [digitChar (n / 4096), digitChar (n / 64 % 64), digitChar (n % 64), '=']
  | a :: b :: c :: rest =>
    let n := (a.toNat * 256 + b.toNat) * 256 + c.toNat
    digitChar (n / 262144) :: digitChar (n / 4096 % 64) :: digitChar (n / 64 % 64) ::
      digitChar (n % 64) :: chars rest

/-- The text of a byte string. -/
def encode (bs : Bytes) : String := String.ofList (chars bs)

/-- The six bits that a character stands for. -/
def digitValue? (c : Char) : Option Nat :=
  let n := c.toNat
  if 65 ≤ n ∧ n ≤ 90 then some (n - 65)
  else if 97 ≤ n ∧ n ≤ 122 then some (n - 71)
  else if 48 ≤ n ∧ n ≤ 57 then some (n + 4)
  else if c = '+' then some 62
  else if c = '/' then some 63
  else none

/-- The bytes of a last group. -/
def decodeLast? (a b c d : Char) : Option Bytes := do
  let x ← digitValue? a
  let y ← digitValue? b
  if c = '=' then
    if d = '=' ∧ y % 16 = 0 then some [UInt8.ofNat (x * 4 + y / 16)] else none
  else
    let z ← digitValue? c
    let n := x * 1024 + y * 16 + z / 4
    if d = '=' then
      if z % 4 = 0 then some [UInt8.ofNat (n / 256), UInt8.ofNat (n % 256)] else none
    else
      let w ← digitValue? d
      some [UInt8.ofNat (n / 256), UInt8.ofNat (n % 256), UInt8.ofNat (z % 4 * 64 + w)]

/-- The bytes that a text spells, `none` if it spells none. -/
def decodeChars? : List Char → Option Bytes
  | [] => some []
  | [a, b, c, d] => decodeLast? a b c d
  | a :: b :: c :: d :: rest => do
    let x ← digitValue? a
    let y ← digitValue? b
    let z ← digitValue? c
    let w ← digitValue? d
    let n := ((x * 64 + y) * 64 + z) * 64 + w
    let bytes ← decodeChars? rest
    some (UInt8.ofNat (n / 65536) :: UInt8.ofNat (n / 256 % 256) :: UInt8.ofNat (n % 256) ::
      bytes)
  | _ => none

/-- The bytes that a text spells, `none` if it spells none. -/
def decode? (s : String) : Option Bytes := decodeChars? s.toList

end Base64

end ShardClient
