/-
White space: the characters of the Unicode property White_Space.
-/

namespace ShardClient

/-- Whether a character is white space. -/
def isBlank (c : Char) : Bool :=
  let n := c.toNat
  (9 ≤ n && n ≤ 13) || n == 0x20 || n == 0x85 || n == 0xa0 || n == 0x1680 ||
    (0x2000 ≤ n && n ≤ 0x200a) || n == 0x2028 || n == 0x2029 || n == 0x202f ||
    n == 0x205f || n == 0x3000

namespace Blank

/-- The text without white space at its ends. -/
def trim (cs : List Char) : List Char :=
  ((cs.dropWhile isBlank).reverse.dropWhile isBlank).reverse

/-- The runs of characters that are not white space, in order.  `word` holds the run read so
far, last character first. -/
def splitFrom (word : List Char) : List Char → List (List Char)
  | [] => if word.isEmpty then [] else [word.reverse]
  | c :: cs =>
    if isBlank c then
      if word.isEmpty then splitFrom [] cs else word.reverse :: splitFrom [] cs
    else splitFrom (c :: word) cs

/-- The words of a text. -/
def words (cs : List Char) : List (List Char) := splitFrom [] cs

end Blank

end ShardClient
