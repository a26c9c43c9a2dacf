/-
Domain names.

A name consists of labels with dots between them.  Names in all scripts are understood, and
each has one form in ASCII, in which servers know it: small letters, and the labels with other
characters in Punycode behind the mark `xn--`.  A label that comes with the mark must be what
its decoded form would be written as.
-/
import ShardClient.Codec.Utf8
import ShardClient.Domain.Direction
import ShardClient.Domain.Joining
import ShardClient.Domain.Mapping
import ShardClient.Domain.Punycode
import ShardClient.Text.Split

namespace ShardClient

namespace Domain

/-- ASCII characters that no name contains. -/
def isForbidden (c : Char) : Bool :=
  c.toNat ≤ 0x20 || c.toNat == 0x7f ||
    ['#', '%', '/', ':', '<', '>', '?', '@', '[', '\\', ']', '^', '|'].contains c

/-- Whether a text is in ASCII. -/
def isAscii (cs : List Char) : Bool := cs.all (·.toNat < 0x80)

/-- The mark of a label in Punycode. -/
def punycodeMark : List Char := ['x', 'n', '-', '-']

/-- A label: its ASCII form, and what it stands for. -/
structure Label where
  ascii : List Char
  meaning : List Char

namespace Label

/-- The greatest length of the digits of a label in Punycode. -/
def longestPunycode : Nat := 2000

/-- The greatest length of a label that is not in ASCII. -/
def longestMeaning : Nat := 1000

/-- What a label behind the mark stands for.  It is in its final form, and not in ASCII. -/
def meaning? (digits : List Char) : Option (List Char) :=
  if digits.length ≤ longestPunycode && isAscii digits then
    (Punycode.decode? digits).filter fun cs =>
      !isAscii cs && cs.all isFinal && composed cs == cs
  else none

/-- Whether the characters of a label can stand beside each other. -/
def isWellFormed (cs : List Char) : Bool :=
  !cs.head?.any isMark && Joining.areInPlace [] cs

/-- Reads a label whose characters have been resolved and composed. -/
def read? (cs : List Char) : Option Label :=
  if punycodeMark.isPrefixOf cs then
    ((meaning? (cs.drop punycodeMark.length)).filter isWellFormed).map fun meaning => ⟨cs, meaning⟩
  else if isAscii cs then some ⟨cs, cs⟩
  else if cs.length ≤ longestMeaning && isWellFormed cs then
    some ⟨punycodeMark ++ Punycode.encode cs, cs⟩
  else none

end Label

/-- Whether the labels are legible side by side. -/
def areLegible (labels : List Label) : Bool :=
  let directed := labels.any fun l => l.meaning.any fun c => (Direction.ofChar c).isMarked
  !directed || labels.all fun l => Direction.isLegible l.meaning

/-- The form of a name in ASCII, `none` if the text is no name. -/
def ascii? (name : List Char) : Option (List Char) := do
  let resolved ← resolve? name
  let cs := composed resolved
  if cs.any isForbidden then none
  let labels ← (splitOn (· == '.') cs).mapM Label.read?
  if areLegible labels then some (['.'].intercalate (labels.map (·.ascii))) else none

end Domain

end ShardClient
