/-
Sets of characters.

A set is given by the ranges of code points that belong to it.  The ranges ascend and do not
touch, so the first range that ends at or behind a character decides.  Long sets are written
as a text with a word for each range: its first and its last code point in hexadecimal and a
hyphen between them, or one code point alone.
-/
import ShardClient.Text.Blank
import ShardClient.Text.HexDigit

namespace ShardClient

/-- A set of characters: the first and the last code point of each range. -/
structure CodeSet where
  ranges : List (Nat × Nat)

namespace CodeSet

/-- Whether a character belongs to the set. -/
def contains (s : CodeSet) (c : Char) : Bool :=
  match s.ranges.find? (fun r => c.toNat ≤ r.2) with
  | some r => r.1 ≤ c.toNat
  | none => false

/-- The range that a word stands for. -/
def readRange (word : List Char) : Nat × Nat :=
  let first := word.takeWhile (· != '-')
  match word.drop first.length with
  | [] => (HexDigit.number first, HexDigit.number first)
  | _ :: last => (HexDigit.number first, HexDigit.number last)

/-- The set that a text stands for. -/
def ofText (s : String) : CodeSet := ⟨(Blank.words s.toList).map readRange⟩

end CodeSet

end ShardClient
