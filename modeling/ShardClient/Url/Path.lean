/-
The paths of addresses.

A path is a list of segments, each with a slash before it.  A segment of one dot stands for the
directory itself and one of two dots for the directory above; they do not remain in the normal
form.  A segment that looks like the letter of a drive is never left through two dots.
-/
import ShardClient.Text.Split
import ShardClient.Url.Percent

namespace ShardClient

namespace UrlPath

/-- Characters that do not stand for themselves in a path. -/
def special : List Char := [' ', '"', '#', '<', '>', '?', '\x60', '\x7b', '\x7d']

/-- Whether a segment stands for the directory itself. -/
def isHere (segment : List Char) : Bool :=
  let s := segment.map Char.toLower
  s == ['.'] || s == ['%', '2', 'e']

/-- Whether a segment stands for the directory above. -/
def isAbove (segment : List Char) : Bool :=
  let s := segment.map Char.toLower
  [['.', '.'], ['.', '%', '2', 'e'], ['%', '2', 'e', '.'], ['%', '2', 'e', '%', '2', 'e']].contains s

/-- Whether a segment looks like the letter of a drive. -/
def isDrive : List Char → Bool
  | [letter, mark] | letter :: mark :: '\\' :: _ => letter.isAlpha && (mark == ':' || mark == '|')
  | _ => false

/-- The segments that lead to the directory above; all stand last first. -/
def leave : List (List Char) → List (List Char)
  | [] => []
  | s :: rest => if isDrive s then s :: rest else rest

/-- The segments without those that stand for directories.  `done` holds the segments so far,
last first.  A path that ends in a directory has an empty last segment. -/
def resolve (done : List (List Char)) : List (List Char) → List (List Char)
  | [] => done.reverse
  | [last] =>
    if isHere last then ([] :: done).reverse
    else if isAbove last then ([] :: leave done).reverse
    else (last :: done).reverse
  | s :: rest =>
    if isHere s then resolve done rest
    else if isAbove s then resolve (leave done) rest
    else resolve (s :: done) rest

/-- A path in normal form, given what stands behind its first slash. -/
def ofText (isSlash : Char → Bool) (cs : List Char) : List Char :=
  (resolve [] (splitOn isSlash cs)).flatMap fun s => '/' :: Percent.encode special s

end UrlPath

end ShardClient
