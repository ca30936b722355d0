import RunFilter.Text.Category

/-!
# Characters that extend the one before them

The property Grapheme_Extend: the marks that take no space or lie around a character, and a list of
other characters that cannot stand on their own.
-/

set_option autoImplicit false

namespace RunFilter.Text

/-- The categories whose characters all extend the one before them. -/
def extending : List Category := [.mn, .me]

/-- The code points of the property Other_Grapheme_Extend: vowel signs, joiners and tags. -/
def otherGraphemeExtend : Ranges := [
  (0x9be, 0x9be), (0x9d7, 0x9d7), (0xb3e, 0xb3e), (0xb57, 0xb57), (0xbbe, 0xbbe), (0xbd7, 0xbd7),
  (0xcc0, 0xcc0), (0xcc2, 0xcc2), (0xcc7, 0xcc8), (0xcca, 0xccb), (0xcd5, 0xcd6), (0xd3e, 0xd3e),
  (0xd57, 0xd57), (0xdcf, 0xdcf), (0xddf, 0xddf), (0x1715, 0x1715), (0x1734, 0x1734),
  (0x1b35, 0x1b35), (0x1b3b, 0x1b3b), (0x1b3d, 0x1b3d), (0x1b43, 0x1b44), (0x1baa, 0x1baa),
  (0x1bf2, 0x1bf3), (0x200c, 0x200c), (0x302e, 0x302f), (0xa953, 0xa953), (0xa9c0, 0xa9c0),
  (0xff9e, 0xff9f), (0x111c0, 0x111c0), (0x11235, 0x11235), (0x1133e, 0x1133e), (0x1134d, 0x1134d),
  (0x11357, 0x11357), (0x113b8, 0x113b8), (0x113c2, 0x113c2), (0x113c5, 0x113c5),
  (0x113c7, 0x113c9), (0x113cf, 0x113cf), (0x114b0, 0x114b0), (0x114bd, 0x114bd),
  (0x115af, 0x115af), (0x116b6, 0x116b6), (0x11930, 0x11930), (0x1193d, 0x1193d),
  (0x11f41, 0x11f41), (0x16ff0, 0x16ff1), (0x1d165, 0x1d166), (0x1d16d, 0x1d172),
  (0xe0020, 0xe007f)]

/-- The voiced sound marks of half width. They extend the character before them, but take a place of
their own. -/
def soundMarks : Ranges := [(0xff9e, 0xff9f)]

/-- Whether a character extends the one before it and would attach to it when shown. -/
def attaches (c : Char) : Bool :=
  (extending.contains (category c.toNat) || otherGraphemeExtend.holds c.toNat) &&
    !soundMarks.holds c.toNat

end RunFilter.Text
