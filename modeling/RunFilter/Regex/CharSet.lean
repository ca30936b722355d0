import RunFilter.Regex.Edition
import RunFilter.Text.Blank
import RunFilter.Text.CaseFold

/-!
# Sets of characters

What a regular expression says about one character: it lies in certain ranges, has a certain
category, lies in a combination of other sets, or differs in case only from a member of another
set.
-/

set_option autoImplicit false

namespace RunFilter.Regex

/-- How two sets are made one. -/
inductive SetOperation where
  | union
  | intersection
  | difference
  | symmetricDifference
  deriving DecidableEq, Repr

/-- Membership in the combination, from membership in the two sets. -/
def SetOperation.holds : SetOperation → Bool → Bool → Bool
  | .union, a, b => a || b
  | .intersection, a, b => a && b
  | .difference, a, b => a && !b
  | .symmetricDifference, a, b => a != b

/-- A set of characters. -/
inductive CharSet where
  | ranges (rs : Text.Ranges)
  | categories (cs : List Text.Category)
  | combine (op : SetOperation) (a b : CharSet)
  | complement (a : CharSet)
  /-- With each member all that differs from it in case only. -/
  | folded (a : CharSet)
  /-- The same for the letters of ASCII. -/
  | foldedAscii (a : CharSet)
  deriving DecidableEq, Repr

/-- A letter of ASCII in its two cases; any other code point alone. -/
def asciiVariants (n : Nat) : List Nat :=
  if 0x41 ≤ n && n ≤ 0x5a then [n, n + 32]
  else if 0x61 ≤ n && n ≤ 0x7a then [n, n - 32]
  else [n]

namespace CharSet

/-- **Membership** of a code point. -/
def holds : CharSet → Nat → Bool
  | .ranges rs, n => rs.holds n
  | .categories cs, n => cs.contains (category n)
  | .combine op a b, n => op.holds (a.holds n) (b.holds n)
  | .complement a, n => !a.holds n
  | .folded a, n => (Text.caseVariants n).any a.holds
  | .foldedAscii a, n => (asciiVariants n).any a.holds

/-- No character. -/
def empty : CharSet := .ranges []

/-- The characters from one to another, both included. -/
def between (low high : Char) : CharSet := .ranges [(low.toNat, high.toNat)]

/-- One character. -/
def single (c : Char) : CharSet := between c c

/-- The characters of either set. -/
def union (a b : CharSet) : CharSet := .combine .union a b

/-- All characters but those of a line break: the line feed, and in texts whose lines end with a
carriage return and a line feed, also the carriage return. -/
def withinLine (crlf : Bool) : CharSet :=
  if crlf then .complement (.ranges [(0xa, 0xa), (0xd, 0xd)]) else .complement (single '\n')

/-- Every character. -/
def any : CharSet := .complement empty

/-- The decimal digits of all scripts, or those of ASCII. -/
def digits (unicode : Bool) : CharSet :=
  if unicode then .categories [.nd] else .ranges [(0x30, 0x39)]

/-- The blank characters, or those of ASCII. -/
def blanks (unicode : Bool) : CharSet :=
  .ranges (if unicode then Text.blanks else [(0x9, 0xd), (0x20, 0x20)])

/-- The letters, marks, digits and connecting punctuation of all scripts. -/
def wordCategories : List Text.Category :=
  [.lu, .ll, .lt, .lm, .lo, .mn, .mc, .me, .nd, .nl, .pc]

/-- The two joiners and the letters in circles and squares, which belong to words as well. -/
def wordSigns : Text.Ranges :=
  [(0x200c, 0x200d), (0x24b6, 0x24e9), (0x1f130, 0x1f149), (0x1f150, 0x1f169), (0x1f170, 0x1f189)]

/-- **The characters of words**, or those of ASCII. -/
def wordCharacters (unicode : Bool) : CharSet :=
  if unicode then union (.categories wordCategories) (.ranges wordSigns)
  else .ranges [(0x30, 0x39), (0x41, 0x5a), (0x5f, 0x5f), (0x61, 0x7a)]

/-- The sets of ASCII characters that a bracket may name. -/
def named? : String → Option CharSet
  | "alnum" => some (.ranges [(0x30, 0x39), (0x41, 0x5a), (0x61, 0x7a)])
  | "alpha" => some (.ranges [(0x41, 0x5a), (0x61, 0x7a)])
  | "ascii" => some (.ranges [(0x0, 0x7f)])
  | "blank" => some (.ranges [(0x9, 0x9), (0x20, 0x20)])
  | "cntrl" => some (.ranges [(0x0, 0x1f), (0x7f, 0x7f)])
  | "digit" => some (digits false)
  | "graph" => some (.ranges [(0x21, 0x7e)])
  | "lower" => some (.ranges [(0x61, 0x7a)])
  | "print" => some (.ranges [(0x20, 0x7e)])
  | "punct" => some (.ranges [(0x21, 0x2f), (0x3a, 0x40), (0x5b, 0x60), (0x7b, 0x7e)])
  | "space" => some (blanks false)
  | "upper" => some (.ranges [(0x41, 0x5a)])
  | "word" => some (wordCharacters false)
  | "xdigit" => some (.ranges [(0x30, 0x39), (0x41, 0x46), (0x61, 0x66)])
  | _ => none

/-- Whether there is no character above ASCII in a set that is a combination of sets of ASCII. One
code point stands for all above ASCII, since no such set tells them apart. -/
def isAscii (a : CharSet) : Bool := !a.holds 0x80

/-- The folding of the letters of ASCII. -/
def asciiFoldings : List Text.Folding := [⟨0x41, 0x5a, 1, 32⟩]

/-- **The set as ranges.** -/
def toRanges : CharSet → Text.Ranges
  | .ranges rs => rs.canonical
  | .categories cs => categoryRanges cs
  | .combine op a b =>
    let x := a.toRanges
    let y := b.toRanges
    match op with
    | .union => x.union y
    | .intersection => x.intersection y
    | .difference => x.difference y
    | .symmetricDifference => (x.difference y).union (y.difference x)
  | .complement a => a.toRanges.complement
  | .folded a => Text.foldedRanges Text.foldings a.toRanges
  | .foldedAscii a => Text.foldedRanges asciiFoldings a.toRanges

end CharSet

end RunFilter.Regex
