/-
Texts cut into parts.
-/

namespace ShardClient

/-- The parts of a text between the characters that satisfy a test.  There is one more of them
than of those characters. -/
def splitOn (p : Char → Bool) : List Char → List (List Char)
  | [] => [[]]
  | c :: cs =>
    if p c then [] :: splitOn p cs
    else
      match splitOn p cs with
      | [] => [[c]]
      | part :: parts => (c :: part) :: parts

end ShardClient
