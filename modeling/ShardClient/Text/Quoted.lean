/-
Texts and characters quoted inside messages.

A quoted text stands between double quotes.  The quote itself, the backslash and the
common controls are written with a backslash; every other character without a glyph is
written as its number in braces; all else stands as it is.  A quoted character follows the
same rules between single quotes, and there it is the single quote that is escaped.
-/
import ShardClient.Text.Glyphless

namespace ShardClient

namespace Quoted

/-- A character by its number: the shortest hexadecimal numeral, in braces. -/
def byNumber (c : Char) : List Char :=
  ['\\', 'u', '\x7b'] ++ HexDigit.numeral c.toNat ++ ['\x7d']

/-- One character inside quotes of the kind `mark`. -/
def escape (mark c : Char) : List Char :=
  if c = '\x00' then ['\\', '0']
  else if c = '\t' then ['\\', 't']
  else if c = '\r' then ['\\', 'r']
  else if c = '\n' then ['\\', 'n']
  else if c = '\\' then ['\\', '\\']
  else if c = mark then ['\\', c]
  else if isGlyphless c then byNumber c
  else [c]

/-- A text between double quotes. -/
def text (s : String) : String :=
  String.ofList (['"'] ++ s.toList.flatMap (escape '"') ++ ['"'])

/-- A character between single quotes. -/
def char (c : Char) : String :=
  String.ofList (['\''] ++ escape '\'' c ++ ['\''])

end Quoted

end ShardClient
