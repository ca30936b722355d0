import RunFilter.Text.Category

/-!
# Characters that can be shown

Controls, formats, private use, unassigned code points and separators cannot be shown as
themselves; of the separators only the blank of ASCII can. Neither can the fillers, which are
letters without a shape.
-/

set_option autoImplicit false

namespace RunFilter.Text

/-- The categories of characters that cannot be shown. -/
def unprintable : List Category := [.cc, .cf, .cs, .co, .cn, .zl, .zp, .zs]

/-- The fillers of Hangul: letters that stand for a missing part of a syllable. -/
def fillers : Ranges := [(0x115f, 0x1160), (0x3164, 0x3164), (0xffa0, 0xffa0)]

/-- Whether a character can be shown as itself. -/
def isPrintable (c : Char) : Bool :=
  c == ' ' || !(unprintable.contains (category c.toNat) || fillers.holds c.toNat)

end RunFilter.Text
