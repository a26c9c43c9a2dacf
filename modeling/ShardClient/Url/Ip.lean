/-
Numeric addresses of hosts.

An address of the older kind is a number of 32 bits, written as up to four numbers with dots
between them: each but the last stands for one byte, the last for all the others.  The numbers
are decimal, octal behind a zero, or hexadecimal behind `0x`.  An address of the newer kind has
eight pieces of 16 bits in hexadecimal with colons between them.  Two colons stand for one or
more zeros, and the last two pieces may be written as four decimal bytes with dots.
-/
import ShardClient.Text.Decimal
import ShardClient.Text.HexDigit
import ShardClient.Text.Split

namespace ShardClient

namespace Ip4

/-- The number that a numeral stands for in the given base. -/
def numeral? (base : Nat) (cs : List Char) : Option Nat :=
  (cs.mapM fun c => (HexDigit.value? c).filter (· < base)).map (Radix.ofDigits base)

/-- Reads one of the numbers of an address. -/
def number? : List Char → Option Nat
  | [] => none
  | '0' :: 'x' :: digits | '0' :: 'X' :: digits => numeral? 16 digits
  | '0' :: d :: digits => numeral? 8 (d :: digits)
  | digits => numeral? 10 digits

/-- The parts of a name between its dots.  A dot at the end does not count. -/
def parts (name : List Char) : List (List Char) :=
  let ps := splitOn (· == '.') name
  if ps.getLast? == some [] then ps.dropLast else ps

/-- Whether a name claims to be an address: its last part is a number, or all digits. -/
def isClaimedBy (name : List Char) : Bool :=
  match (parts name).getLast? with
  | some last => (!last.isEmpty && last.all Char.isDigit) || (number? last).isSome
  | none => false

/-- Reads an address. -/
def read? (name : List Char) : Option Nat := do
  let ns ← (parts name).mapM number?
  let last ← ns.getLast?
  let bytes := ns.dropLast
  if bytes.length < 4 && bytes.all (· < 256) && last < 1 <<< (8 * (4 - bytes.length)) then
    some (Radix.ofDigits 256 bytes <<< (8 * (4 - bytes.length)) + last)
  else none

/-- An address as four decimal bytes. -/
def text (n : Nat) : List Char :=
  ['.'].intercalate ((Radix.lowDigits 256 4 n).reverse.map Decimal.chars)

end Ip4

namespace Ip6

/-- Reads a piece. -/
def piece? (cs : List Char) : Option Nat :=
  if 1 ≤ cs.length && cs.length ≤ 4 then Ip4.numeral? 16 cs else none

/-- Reads one of four bytes: a decimal number without zeros in front. -/
def byte? (cs : List Char) : Option Nat :=
  if cs.isEmpty || (cs.length != 1 && cs.head? == some '0') then none
  else (Ip4.numeral? 10 cs).filter (· < 256)

/-- Reads two pieces that are written as four bytes. -/
def bytes? (cs : List Char) : Option (List Nat) := do
  let [a, b, c, d] ← (splitOn (· == '.') cs).mapM byte? | none
  some [a * 256 + b, c * 256 + d]

/-- Reads pieces with colons between them.  If the address ends with them, bytes may stand for
the last two. -/
def pieces? (final : Bool) : List (List Char) → Option (List Nat)
  | [] => some []
  | [last] => if final && last.contains '.' then bytes? last else (piece? last).map ([·])
  | cs :: rest => do
    let n ← piece? cs
    let ns ← pieces? final rest
    some (n :: ns)

/-- Reads a list of pieces, which may be empty. -/
def run? (final : Bool) (cs : List Char) : Option (List Nat) :=
  if cs.isEmpty then some [] else pieces? final (splitOn (· == ':') cs)

/-- What stands before the first two colons in a row, and what stands behind them. -/
def splitGap? : List Char → Option (List Char × List Char)
  | ':' :: ':' :: rest => some ([], rest)
  | c :: rest => (splitGap? rest).map fun (before, behind) => (c :: before, behind)
  | [] => none

/-- Reads an address: its eight pieces. -/
def read? (cs : List Char) : Option (List Nat) :=
  match splitGap? cs with
  | none => (run? true cs).filter (·.length == 8)
  | some (before, behind) => do
    let front ← run? false before
    let back ← run? true behind
    let zeros := 8 - (front.length + back.length)
    if zeros = 0 then none else some (front ++ List.replicate zeros 0 ++ back)

/-- The number of zeros at the front. -/
def zerosAt (ns : List Nat) : Nat := (ns.takeWhile (· == 0)).length

/-- The place and the length of the longest run of zeros, the first one of several. -/
def longestZeros (ns : List Nat) : Nat × Nat :=
  (List.range ns.length).foldl (fun best i =>
    let n := zerosAt (ns.drop i)
    if best.2 < n then (i, n) else best) (0, 0)

/-- Pieces with colons between them. -/
def run (ns : List Nat) : List Char := [':'].intercalate (ns.map HexDigit.numeral)

/-- An address, with two colons for the longest run of zeros if that is longer than one. -/
def text (ns : List Nat) : List Char :=
  let (place, length) := longestZeros ns
  if length < 2 then run ns
  else run (ns.take place) ++ [':', ':'] ++ run (ns.drop (place + length))

end Ip6

end ShardClient
