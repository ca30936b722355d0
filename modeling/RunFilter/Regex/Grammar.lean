import RunFilter.Regex.Bracket
import RunFilter.Regex.Program

/-!
# The grammar of regular expressions

Alternatives between bars, each a sequence of items; an item may be repeated. A text
that is no regular expression is refused without a reason.
-/

set_option autoImplicit false

namespace RunFilter.Regex

/-! ## Repetitions -/

/-- A decimal numeral of 32 bits, with blanks around it. -/
def numeral (flags : Flags) : Reader Nat := fun cs =>
  go (cs.length + 1) [] (cs.dropWhile Text.isBlank)
where
  /-- The digits, at most `fuel` of them; those read already come last first. -/
  go : Nat → List Char → Reader Nat
    | 0, _, _ => none
    | fuel + 1, digits, cs =>
      match cs with
      | c :: rest =>
        if Text.isDigit c then go fuel (c :: digits) (flags.skip rest) else finish digits cs
      | [] => finish digits []
  /-- The number of the digits. -/
  finish (digits cs : List Char) : Option (Nat × List Char) :=
    let value := Text.digitsValue digits.reverse
    if digits.isEmpty || 0x100000000 ≤ value then none
    else some (value, flags.skip (cs.dropWhile Text.isBlank))

/-- The bounds of a repetition and the closing brace, behind the opening one. -/
def bounds (flags : Flags) : Reader (Nat × Option Nat) := fun cs => do
  let (least, cs) ← numeral flags (flags.skip cs)
  match cs with
  | '\x7d' :: cs => pure ((least, some least), flags.skip cs)
  | ',' :: cs =>
    match flags.skip cs with
    | '\x7d' :: cs => pure ((least, none), flags.skip cs)
    | cs =>
      let (most, cs) ← numeral flags cs
      match cs with
      | '\x7d' :: cs => if least ≤ most then pure ((least, some most), flags.skip cs) else none
      | _ => none
  | _ => none

/-- The bounds of a repetition by its sign, if there is one, and what follows it. -/
def repetition? (flags : Flags) : Reader (Option (Nat × Option Nat))
  | '?' :: cs => some (some (0, some 1), cs)
  | '*' :: cs => some (some (0, none), cs)
  | '+' :: cs => some (some (1, none), cs)
  | '\x7b' :: cs => do let (found, cs) ← bounds flags cs; pure (some found, cs)
  | cs => some (none, cs)

/-- Whether a repetition prefers few times, by the mark behind it, and what follows. -/
def preference (flags : Flags) : List Char → Bool × List Char
  | '?' :: cs => (!flags.swapped, cs)
  | cs => (flags.swapped, cs)

/-- **A pattern with the repetitions behind it**, at most `fuel` of them. -/
def repeated (flags : Flags) : Nat → Pattern → Reader Pattern
  | 0, p, cs => some (p, cs)
  | fuel + 1, p, cs => do
    match ← repetition? flags (flags.skip cs) with
    | (some (least, most), cs) =>
      let (few, cs) := preference flags cs
      repeated flags fuel (p.repeated least most few) cs
    | (none, cs) => some (p, cs)

/-! ## Groups -/

/-- The beginning of a group, which is kept apart in what is found or not, or flags that are set for
the rest of the group around them. -/
inductive Opening where
  | group (kept : Bool) (flags : Flags) (name : Option String)
  | setting (flags : Flags)
  deriving Repr

/-- Whether a character may stand in the name of a group. -/
def isGroupNamePart (c : Char) : Bool :=
  Text.isAlphanumeric c || c == '_' || c == '.' || c == '[' || c == ']'

/-- Whether a character may begin the name of a group. -/
def isGroupNameStart (c : Char) : Bool := Text.isAlphabetic c || c == '_'

/-- The name of a group, up to the bracket behind it. -/
def groupName : Reader String
  | c :: cs =>
    if isGroupNameStart c then
      match cs.dropWhile isGroupNamePart with
      | '>' :: rest => some (String.ofList (c :: cs.takeWhile isGroupNamePart), rest)
      | _ => none
    else none
  | [] => none

/-- Letters of flags up to a colon or a parenthesis. A hyphen clears the flags behind it; no
letter and no hyphen stands twice, and none stands last. -/
def flagLetters (flags : Flags) (seen : List Char) : Reader Opening
  | [] => none
  | ':' :: cs => if seen.head? == some '-' then none else some (.group false flags none, cs)
  | ')' :: cs =>
    if seen.isEmpty || seen.head? == some '-' then none else some (.setting flags, cs)
  | c :: cs =>
    if seen.contains c then none
    else if c == '-' then flagLetters flags (c :: seen) cs
    else do flagLetters (← flags.set? c (!seen.contains '-')) (c :: seen) cs

/-- **The beginning of a group**, behind its parenthesis. -/
def opening (flags : Flags) (cs : List Char) : Option (Opening × List Char) :=
  match flags.skip cs with
  | '?' :: 'P' :: '<' :: cs => do let (name, cs) ← groupName cs; pure (.group true flags name, cs)
  | '?' :: '<' :: cs => do let (name, cs) ← groupName cs; pure (.group true flags name, cs)
  | '?' :: cs => flagLetters flags [] cs
  | cs => some (.group true flags none, cs)

/-! ## Expressions -/

/-- One character of a set that stands outside of brackets. -/
def Pattern.ofSet (flags : Flags) (set : CharSet) : Pattern := .chars ⟨set, flags.unicode, 0⟩

/-- An item that is no group: a character, a point, a condition, a class or an escape. The marks
of repetitions need something in front of them. -/
def item (flags : Flags) (c : Char) : Reader Pattern := fun cs =>
  match c with
  | '?' | '*' | '+' | '\x7b' => none
  | '^' => some (.assertion flags.lineStart, cs)
  | '$' => some (.assertion flags.lineEnd, cs)
  | '.' => do pure (.ofSet flags (← flags.dot?), cs)
  | '[' => do let (c, cs) ← Bracket.read flags cs; pure (.chars c, cs)
  | '\\' => do
    let (escape, cs) ← Escape.read flags cs
    match escape with
    | .literal c => pure (.ofSet flags (flags.literal c), cs)
    | .chars set => pure (.ofSet flags set, cs)
    | .assertion a => pure (.assertion a, cs)
  | c => some (.ofSet flags (flags.literal c), cs)

/-- Alternatives, each a list of items; there is always one. -/
structure Alternatives where
  first : List Pattern := []
  others : List (List Pattern) := []
  deriving Repr

namespace Alternatives

/-- One more item in front of the first alternative. -/
def cons (p : Pattern) (a : Alternatives) : Alternatives := { a with first := p :: a.first }

/-- One more alternative in front, without items so far. -/
def branch (a : Alternatives) : Alternatives := ⟨[], a.first :: a.others⟩

/-- The alternatives as a pattern. -/
def pattern (a : Alternatives) : Pattern :=
  .choice (.sequence a.first) (a.others.map .sequence)

end Alternatives

/-- A place in an expression: the flags that hold, the names of the groups in front of it, and the
text behind it. -/
structure Place where
  flags : Flags := {}
  names : List String := []
  rest : List Char
  deriving Repr

/-- **Alternatives up to the end of their group** or of the text, where each item takes a character
and there are fewer than `fuel`. The flags at the end are those that hold there. -/
def alternatives : Nat → Place → Option (Alternatives × Place)
  | 0, _ => none
  | fuel + 1, place =>
    match place.flags.skip place.rest with
    | [] => some ({}, { place with rest := [] })
    | ')' :: cs => some ({}, { place with rest := ')' :: cs })
    | '|' :: cs => do
      let (others, place) ← alternatives fuel { place with rest := cs }
      pure (others.branch, place)
    | '(' :: cs => do
      match ← opening place.flags cs with
      | (.setting flags, cs) =>
        let (others, place) ← alternatives fuel { place with flags, rest := cs }
        pure (others.cons .empty, place)
      | (.group kept flags name, cs) =>
        if name.any place.names.contains then none
        else
          let (inner, after) ← alternatives fuel ⟨flags, name.toList ++ place.names, cs⟩
          match after.rest with
          | ')' :: cs =>
            let (p, cs) ← repeated place.flags cs.length (.group kept inner.pattern) cs
            let (others, place) ← alternatives fuel ⟨place.flags, after.names, cs⟩
            pure (others.cons p, place)
          | _ => none
    | c :: cs => do
      let (p, cs) ← item place.flags c cs
      let (p, cs) ← repeated place.flags cs.length p cs
      let (others, place) ← alternatives fuel { place with rest := cs }
      pure (others.cons p, place)

/-- **The pattern of a regular expression**, if the text is one and keeps to the limits. -/
def Pattern.ofText? (text : List Char) : Option Pattern := do
  let (found, place) ← alternatives (text.length + 1) ⟨{}, [], text⟩
  if place.rest.isEmpty && found.pattern.isBounded then pure found.pattern else none

end RunFilter.Regex
