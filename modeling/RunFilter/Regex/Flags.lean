import RunFilter.Regex.Pattern

/-!
# Flags

How the text of a regular expression is to be read. Flags are set in the middle of the text and
hold to the end of the group.
-/

set_option autoImplicit false

namespace RunFilter.Regex

/-- A reader takes something from the beginning of an expression. -/
abbrev Reader (α : Type) := List Char → Option (α × List Char)

/-- The flags that hold at a place in a regular expression. -/
structure Flags where
  ignoreCase : Bool := false
  /-- `^` and `$` are met at every line. -/
  multiLine : Bool := false
  /-- `.` takes line breaks too. -/
  dotAll : Bool := false
  /-- Lines end with a carriage return and a line feed. -/
  crlf : Bool := false
  /-- Classes and letters are those of all scripts, not of ASCII alone. -/
  unicode : Bool := true
  /-- Blanks and comments in the expression mean nothing. -/
  verbose : Bool := false
  /-- Repetitions prefer to be short where they would prefer to be long. -/
  swapped : Bool := false
  deriving DecidableEq, Repr

namespace Flags

/-- The flag of a letter is set or cleared. -/
def set? (flags : Flags) (letter : Char) (value : Bool) : Option Flags :=
  match letter with
  | 'i' => some { flags with ignoreCase := value }
  | 'm' => some { flags with multiLine := value }
  | 's' => some { flags with dotAll := value }
  | 'R' => some { flags with crlf := value }
  | 'u' => some { flags with unicode := value }
  | 'x' => some { flags with verbose := value }
  | 'U' => some { flags with swapped := value }
  | _ => none

/-- What follows the blanks and comments, which reach to the end of their line. -/
def skipRemarks (inComment : Bool) : List Char → List Char
  | [] => []
  | c :: cs =>
    if inComment then skipRemarks (c != '\n') cs
    else if c == '#' then skipRemarks true cs
    else if Text.isBlank c then skipRemarks false cs
    else c :: cs

/-- What follows the part of an expression that means nothing. -/
def skip (flags : Flags) (cs : List Char) : List Char :=
  if flags.verbose then skipRemarks false cs else cs

/-- The text up to a closing brace, at most `fuel` characters of it, and what follows. -/
def bracedWithin (flags : Flags) : Nat → Reader (List Char)
  | 0, _ => none
  | fuel + 1, cs =>
    match flags.skip cs with
    | [] => none
    | '\x7d' :: cs => some ([], cs)
    | c :: cs => do
      let (inner, cs) ← bracedWithin flags fuel cs
      pure (c :: inner, cs)

/-- **The text up to a closing brace** and what follows. -/
def braced (flags : Flags) : Reader (List Char) := fun cs => bracedWithin flags (cs.length + 1) cs

/-- A number of characters and what follows. -/
def taken (flags : Flags) : Nat → Reader (List Char)
  | 0, cs => some ([], cs)
  | _ + 1, [] => none
  | count + 1, c :: cs => do
    let (inner, cs) ← taken flags count (flags.skip cs)
    pure (c :: inner, cs)

/-- With each character of a set those that count as the same. -/
def fold (flags : Flags) (set : CharSet) : CharSet :=
  if !flags.ignoreCase then set
  else if flags.unicode then .folded set
  else .foldedAscii set

/-- The characters that a character of the expression stands for. Where ASCII alone counts, no other
character has a second case. -/
def literal (flags : Flags) (c : Char) : CharSet := flags.fold (.single c)

/-- A set, unless the expression is about ASCII alone and the set is not. -/
def restrict? (flags : Flags) (set : CharSet) : Option CharSet :=
  if flags.unicode || set.isAscii then some set else none

/-- The characters that the point stands for. -/
def dot? (flags : Flags) : Option CharSet :=
  flags.restrict? (if flags.dotAll then .any else .withinLine flags.crlf)

/-- The condition that `^` stands for. -/
def lineStart (flags : Flags) : Assertion :=
  if flags.multiLine then .startOfLine flags.crlf else .startOfText

/-- The condition that `$` stands for. -/
def lineEnd (flags : Flags) : Assertion :=
  if flags.multiLine then .endOfLine flags.crlf else .endOfText

/-- A condition on the words around a place. -/
def wordEdge (flags : Flags) (edge : WordEdge) : Assertion :=
  .word (.wordCharacters flags.unicode) edge

end Flags

end RunFilter.Regex
