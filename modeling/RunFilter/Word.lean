/-!
# Whole numbers of a fixed width

Whole numbers are integers here; these are the bounds within which filters and settings may write
them.
-/

set_option autoImplicit false

namespace RunFilter

/-- The whole numbers of 32 bits with a sign. -/
def isWord32 (n : Int) : Bool := -0x80000000 ≤ n && n ≤ 0x7fffffff

/-- The whole numbers of 64 bits with a sign. -/
def isWord64 (n : Int) : Bool := -0x8000000000000000 ≤ n && n ≤ 0x7fffffffffffffff

end RunFilter
