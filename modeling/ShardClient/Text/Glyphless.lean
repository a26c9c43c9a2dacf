/-
Characters without a glyph of their own: controls, formats, separators other than the space,
code points that stand for no character, fillers, and marks that go on with the character
before them.  A quoted text writes them by number, because a reader could not tell them apart
on a screen.
-/
import ShardClient.Text.Mark
import ShardClient.Text.Unassigned

namespace ShardClient

namespace Glyphless

/-- Controls, formats and separators: the Unicode categories Cc, Cf, Zl, Zp and Zs, without the
space. -/
def formats : CodeSet := .ofText
  "0-1f 7f-a0 ad 600-605 61c 6dd 70f 890-891 8e2 1680 180e 2000-200f 2028-202f 205f-2064
    2066-206f 3000 feff fff9-fffb 110bd 110cd 13430-1343f 1bca0-1bca3 1d173-1d17a e0001
    e0020-e007f"

/-- What goes on with the character before it and is no nonspacing mark, after the property
Grapheme_Extend, and the fillers, which are shown as nothing. -/
def extending : CodeSet := .ofText
  "9be 9d7 b3e b57 bbe bd7 cc0 cc2 cc7-cc8 cca-ccb cd5-cd6 d3e d57 dcf ddf 115f-1160 1715 1734
    1b35 1b3b 1b3d 1b43-1b44 1baa 1bf2-1bf3 302e-302f 3164 a953 a9c0 ff9e-ffa0 111c0 11235 1133e
    1134d 11357 113b8 113c2 113c5 113c7-113c9 113cf 114b0 114bd 115af 116b6 11930 1193d 11f41
    16ff0-16ff1 1d165-1d166 1d16d-1d172"

end Glyphless

/-- Whether a character has no glyph of its own. -/
def isGlyphless (c : Char) : Bool :=
  Glyphless.formats.contains c || Mark.nonspacing.contains c || Glyphless.extending.contains c ||
    unassigned.contains c

end ShardClient
