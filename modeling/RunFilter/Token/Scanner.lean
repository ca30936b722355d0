import RunFilter.Text.Blank
import RunFilter.Text.Offset
import RunFilter.Token.Numeral

/-!
# Reading tokens from a text

A cursor is a place in a text. `Cursor.next` skips blanks and reads one token; it always answers,
also after a mistake and at the end of the text. A character that begins no token stays under the
cursor, a text that does not end is skipped to the end, and a whole number out of range is skipped
as one.
-/

set_option autoImplicit false

namespace RunFilter

/-- What was read at the beginning of a text without blanks in front: a token or a mistake, the
characters passed, and the characters still to come. -/
structure Lexeme where
  outcome : Except Fault Token
  taken : List Char
  rest : List Char

namespace Lexeme

/-- A symbol and its spelling. -/
def ofSymbol (s : Symbol) (taken rest : List Char) : Lexeme := ⟨.ok (.symbol s), taken, rest⟩

/-- The token of a word: the words with a meaning of their own, and names. -/
def ofWord (word : List Char) : Token :=
  match String.ofList word with
  | "and" => .symbol .andWord
  | "or" => .symbol .orWord
  | "not" => .symbol .notWord
  | "in" => .symbol .inWord
  | "is" => .symbol .isWord
  | "True" | "true" => .literal (.bool true)
  | "False" | "false" => .literal (.bool false)
  | "None" => .literal .null
  | name => .name name

/-- A text behind its opening quote `q`. There are no escapes: the next `q` ends it. -/
def ofQuoted (q : Char) (cs : List Char) : Lexeme :=
  let body := cs.takeWhile (· != q)
  match cs.dropWhile (· != q) with
  | [] => ⟨.error .unterminatedText, q :: body, []⟩
  | close :: rest => ⟨.ok (.literal (.text (String.ofList body))), q :: body ++ [close], rest⟩

/-- A numeral. -/
def ofNumeral (cs : List Char) : Lexeme :=
  let (numeral, rest) := Numeral.scan cs
  ⟨numeral.value.map .literal, numeral.chars, rest⟩

/-- A symbol of one character, or of that character and `=`. -/
def ofComparison (c : Char) (alone paired : Except Fault Symbol) (cs : List Char) : Lexeme :=
  match cs with
  | '=' :: rest => ⟨paired.map .symbol, [c, '='], rest⟩
  | _ =>
    match alone with
    | .ok s => ofSymbol s [c] cs
    | .error fault => ⟨.error fault, [], c :: cs⟩

/-- Whether a numeral begins here: a digit, or a minus sign with a digit behind it. -/
def startsNumeral : List Char → Bool
  | '-' :: d :: _ => Text.isDigit d
  | c :: _ => Text.isDigit c
  | [] => false

/-- The symbols of one character. -/
def signs : List (Char × Symbol) :=
  [('.', .dot), (',', .comma), (':', .colon), ('(', .leftParen), (')', .rightParen),
   ('[', .leftBracket), (']', .rightBracket), ('\x7b', .leftBrace), ('\x7d', .rightBrace)]

/-- **The token at the beginning of a text** that does not begin with a blank. -/
def scan : List Char → Lexeme
  | [] => ⟨.ok .endOfText, [], []⟩
  | c :: cs =>
    if let some s := signs.lookup c then ofSymbol s [c] cs
    else if c == '<' then ofComparison c (.ok .less) (.ok .lessEqual) cs
    else if c == '>' then ofComparison c (.ok .greater) (.ok .greaterEqual) cs
    else if c == '=' then ofComparison c (.error .strayEquals) (.ok .equal) cs
    else if c == '!' then ofComparison c (.error .strayBang) (.ok .notEqual) cs
    else if c == '"' || c == '\'' then ofQuoted c cs
    else if startsNumeral (c :: cs) then ofNumeral (c :: cs)
    else if Text.isNameStart c then
      let word := c :: cs.takeWhile Text.isNamePart
      ⟨.ok (ofWord word), word, cs.dropWhile Text.isNamePart⟩
    else ⟨.error (.unexpectedCharacter c), [], c :: cs⟩

end Lexeme

/-- A place in a text: the bytes before it and the characters behind it. -/
structure Cursor where
  offset : Nat
  rest : List Char
  deriving DecidableEq, Repr

/-- One reading: where the token or the mistake starts, what it is, and the place behind it. -/
structure Scan where
  start : Nat
  outcome : Except SyntaxError Token
  after : Cursor

namespace Cursor

/-- The beginning of a text. -/
def ofString (s : String) : Cursor := ⟨0, s.toList⟩

/-- The place behind the blanks that follow. -/
def skipBlanks (c : Cursor) : Cursor :=
  ⟨c.offset + Text.byteLength (c.rest.takeWhile Text.isBlank), c.rest.dropWhile Text.isBlank⟩

/-- **One reading from a place.** -/
def next (c : Cursor) : Scan :=
  let start := c.skipBlanks
  let lexeme := Lexeme.scan start.rest
  { start := start.offset
    outcome := lexeme.outcome.mapError (·.at start.offset)
    after := ⟨start.offset + Text.byteLength lexeme.taken, lexeme.rest⟩ }

/-- The first `n` readings, each from the place where the one before it stopped. -/
def readings : Nat → Cursor → List Scan
  | 0, _ => []
  | n + 1, c => c.next :: readings n c.next.after

end Cursor

end RunFilter
