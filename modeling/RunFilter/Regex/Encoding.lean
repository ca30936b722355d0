import RunFilter.Text.Range

/-!
# Sets of characters byte by byte

A set of characters, read in UTF-8, is a set of byte strings. It is written as rows: a row has a
range for each byte, and stands for all strings with bytes from these ranges. Rows can be followed
from the front, where those with the same end share it, and from the back.
-/

set_option autoImplicit false

namespace RunFilter.Regex

/-- A range for each byte of the encoded characters. -/
abbrev ByteRow := List (Nat × Nat)

namespace Encoding

/-- The code points that are encoded with the same number of bytes; those between the third and the
fourth zone are no characters. -/
def zones : List (Nat × Nat × Nat) := [
  (1, 0x0, 0x7f), (2, 0x80, 0x7ff), (3, 0x800, 0xd7ff), (3, 0xe000, 0xffff), (4, 0x10000, 0x10ffff)]

/-- The bytes of a code point that takes a given number of them. -/
def bytes : Nat → Nat → List Nat
  | 1, n => [n]
  | 2, n => [0xc0 + n / 64, 0x80 + n % 64]
  | 3, n => [0xe0 + n / 4096, 0x80 + n / 64 % 64, 0x80 + n % 64]
  | _, n => [0xf0 + n / 262144, 0x80 + n / 4096 % 64, 0x80 + n / 64 % 64, 0x80 + n % 64]

/-- The number of bytes of a character. -/
def length (n : Nat) : Nat := ((zones.find? fun (_, _, high) => n ≤ high).map (·.1)).getD 4

/-- A range cut so that in every piece, where one byte varies, all bytes behind it take all their
values: by blocks of the given sizes, each a multiple of the one before. -/
def pieces : List Nat → Nat → Nat → Text.Ranges
  | [], low, high => [(low, high)]
  | block :: blocks, low, high =>
    if low / block == high / block then [(low, high)]
    else
      let start := if low % block == 0 then low else (low / block + 1) * block
      let stop := if high % block == block - 1 then high + 1 else high / block * block
      (if low < start then [(low, start - 1)] else []) ++
        (if start < stop then pieces blocks start (stop - 1) else []) ++
        (if stop ≤ high then [(stop, high)] else [])

/-- The rows of a range within one zone. -/
def zoneRows (count low high : Nat) : List ByteRow :=
  let cut := if count == 1 then [(low, high)] else pieces [64, 4096, 262144] low high
  cut.map fun (a, b) => (bytes count a).zip (bytes count b)

/-- **The rows of a set** of canonical ranges, in ascending order. -/
def rows (set : Text.Ranges) : List ByteRow :=
  set.flatMap fun (low, high) =>
    zones.flatMap fun (count, first, last) =>
      let low := max low first
      let high := min high last
      if low ≤ high then zoneRows count low high else []

/-! ## From the front -/

/-- A state on the way through the rows: the next byte and the state behind it. -/
abbrev Fork := List ((Nat × Nat) × Nat)

/-- Rows with the same first range together, each without it. -/
def byFirst : List ByteRow → List ((Nat × Nat) × List ByteRow)
  | [] => []
  | [] :: rows => byFirst rows
  | (first :: row) :: rows =>
    match byFirst rows with
    | (next, tails) :: groups =>
      if first = next then (first, row :: tails) :: groups
      else (first, [row]) :: (next, tails) :: groups
    | [] => [(first, [row])]

/-- The number of a state among those there are, the last one first, or of a new one. The state at
the end has the number zero. -/
def enter (fork : Fork) (forks : List Fork) : Nat × List Fork :=
  match forks.idxOf? fork with
  | some i => (forks.length - i, forks)
  | none => (forks.length + 1, fork :: forks)

/-- The states of the rows, where rows of at most `fuel` bytes that go on alike share them. -/
def states : Nat → List ByteRow → List Fork → Nat × List Fork
  | 0, _, forks => (0, forks)
  | fuel + 1, rows, forks =>
    let groups := byFirst rows
    if groups.isEmpty then (0, forks)
    else
      let (fork, forks) := groups.foldl (fun (fork, forks) (first, tails) =>
        let (next, forks) := states fuel tails forks
        (fork ++ [(first, next)], forks)) ([], forks)
      enter fork forks

/-- **The states of a set**, without the one at the end. -/
def forks (rows : List ByteRow) : List Fork := (states 4 rows []).2

/-! ## From the back -/

/-- The bytes of a row behind those it has in common with the row before. -/
def fresh : ByteRow → ByteRow → Nat
  | a :: before, b :: row => if a = b then fresh before row else row.length + 1
  | _, row => row.length

/-- **The bytes of the rows** where each shares its beginning with the row before. -/
def steps (before : ByteRow) : List ByteRow → Nat
  | [] => 0
  | row :: rows => fresh before row + steps row rows

end Encoding

end RunFilter.Regex
