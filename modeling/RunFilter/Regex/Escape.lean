import RunFilter.Regex.Property

/-!
# Escapes

What a backslash and the characters behind it stand for: a character, a set of characters or a
condition on a place.
-/

set_option autoImplicit false

namespace RunFilter.Regex

/-- What an escape stands for. -/
inductive Escape where
  | literal (c : Char)
  | chars (set : CharSet)
  | assertion (a : Assertion)
  deriving DecidableEq, Repr

namespace Escape

/-- The character of a code point, in braces or in a fixed number of hexadecimal digits. -/
def codePoint (flags : Flags) (count : Nat) : Reader Char := fun cs => do
  let (digits, cs) ← match flags.skip cs with
    | '\x7b' :: cs => flags.braced cs
    | cs => flags.taken count cs
  if digits.isEmpty then none
  else
    let c ← Text.character? (← Text.number? 16 digits)
    pure (c, cs)

/-- **An edge of a word**, behind its letter: named in braces, or any. Braces that do not begin
with a name are a repetition. -/
def boundary (flags : Flags) : Reader WordEdge
  | '\x7b' :: cs =>
    match flags.skip cs with
    | [] => none
    | c :: inner =>
      if Text.isLetter c || c == '-' then do
        let (name, cs) ← flags.braced (c :: inner)
        match String.ofList name with
        | "start" => pure (.start, cs)
        | "end" => pure (.finish, cs)
        | "start-half" => pure (.startHalf, cs)
        | "end-half" => pure (.finishHalf, cs)
        | _ => none
      else some (.either, '\x7b' :: cs)
  | cs => some (.either, cs)

/-- Whether a character stands for itself behind a backslash. -/
def isQuotable (c : Char) : Bool :=
  c.toNat < 0x80 && !Text.isLetter c && !Text.isDigit c && c != '<' && c != '>'

/-- A class by its letter; the capital letter takes all characters outside. -/
def class? (flags : Flags) : Char → Option CharSet
  | 'd' => some (.digits flags.unicode)
  | 's' => some (.blanks flags.unicode)
  | 'w' => some (.wordCharacters flags.unicode)
  | 'D' => flags.restrict? (.complement (.digits flags.unicode))
  | 'S' => flags.restrict? (.complement (.blanks flags.unicode))
  | 'W' => flags.restrict? (.complement (.wordCharacters flags.unicode))
  | _ => none

/-- A control character by its letter. -/
def control? : Char → Option Char
  | 'a' => some '\x07'
  | 'f' => some '\x0c'
  | 't' => some '\t'
  | 'n' => some '\n'
  | 'r' => some '\r'
  | 'v' => some '\x0b'
  | _ => none

/-- A condition by its letter or sign. -/
def assertion? (flags : Flags) : Char → Option Assertion
  | 'A' => some .startOfText
  | 'z' => some .endOfText
  | 'B' => some (flags.wordEdge .neither)
  | '<' => some (flags.wordEdge .start)
  | '>' => some (flags.wordEdge .finish)
  | _ => none

/-- **What an escape stands for**, behind its backslash. References to groups are no escapes. -/
def read (flags : Flags) : Reader Escape
  | [] => none
  | 'x' :: cs => do
    let (c, rest) ← codePoint flags 2 cs
    if flags.unicode || c.toNat < 0x80 || (flags.skip cs).head? == some '\x7b' then
      pure (.literal c, rest)
    else none
  | 'u' :: cs => do let (c, cs) ← codePoint flags 4 cs; pure (.literal c, cs)
  | 'U' :: cs => do let (c, cs) ← codePoint flags 8 cs; pure (.literal c, cs)
  | 'p' :: cs => do let (set, cs) ← Property.read flags false cs; pure (.chars set, cs)
  | 'P' :: cs => do let (set, cs) ← Property.read flags true cs; pure (.chars set, cs)
  | 'b' :: cs => do
    let (edge, cs) ← boundary flags cs
    pure (.assertion (flags.wordEdge edge), cs)
  | c :: cs =>
    if isQuotable c then some (.literal c, cs)
    else do
      let escape ← (control? c).map Escape.literal <|> (class? flags c).map Escape.chars <|>
        (assertion? flags c).map Escape.assertion
      pure (escape, cs)

end Escape

end RunFilter.Regex
