/-!
# Sets of characters as ranges

A property of characters is given by the ranges of code points that have it, in ascending order
and with both ends included.
-/

set_option autoImplicit false

namespace RunFilter.Text

/-- Ranges of code points, ends included. -/
abbrev Ranges := List (Nat × Nat)

namespace Ranges

/-- Whether a code point lies in one of the ranges. -/
def holds (ranges : Ranges) (n : Nat) : Bool :=
  ranges.any fun (low, high) => low ≤ n && n ≤ high

/-- A range in front of others that begin no earlier, made one with those that touch it. -/
def merged (low high : Nat) : Ranges → Ranges
  | [] => [(low, high)]
  | (l, h) :: ranges =>
    if l ≤ high + 1 then merged low (max high h) ranges else (low, high) :: merged l h ranges

/-- **The same set with the fewest ranges**, in ascending order. -/
def canonical (ranges : Ranges) : Ranges :=
  match ranges.mergeSort fun a b => a.1 ≤ b.1 with
  | [] => []
  | (low, high) :: ranges => merged low high ranges

/-- What lies between canonical ranges, from a code point on. -/
def gaps (start : Nat) : Ranges → Ranges
  | [] => if start ≤ 0x10ffff then [(start, 0x10ffff)] else []
  | (low, high) :: ranges =>
    if start < low then (start, low - 1) :: gaps (high + 1) ranges else gaps (high + 1) ranges

/-- All code points outside of canonical ranges. -/
def complement (ranges : Ranges) : Ranges := gaps 0 ranges

/-- The code points in either set. -/
def union (a b : Ranges) : Ranges := canonical (a ++ b)

/-- The code points in both of two canonical sets. -/
def intersection (a b : Ranges) : Ranges := (union a.complement b.complement).complement

/-- The code points of a canonical set outside of another. -/
def difference (a b : Ranges) : Ranges := (union a.complement b).complement

end Ranges

end RunFilter.Text
