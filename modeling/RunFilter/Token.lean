import RunFilter.Value

/-!
# Tokens

The words of the filter language. Words and signs of fixed spelling are symbols; the others carry
the constant or the name that they were written for.
-/

set_option autoImplicit false

namespace RunFilter

/-- A token of fixed spelling. -/
inductive Symbol where
  | andWord | orWord | notWord | inWord | isWord
  | equal | notEqual | less | greater | lessEqual | greaterEqual
  | leftBracket | rightBracket | leftParen | rightParen | leftBrace | rightBrace
  | dot | comma | colon
  deriving DecidableEq, Repr

/-- The spelling of a symbol. -/
def Symbol.text : Symbol → String
  | .andWord => "and"
  | .orWord => "or"
  | .notWord => "not"
  | .inWord => "in"
  | .isWord => "is"
  | .equal => "=="
  | .notEqual => "!="
  | .less => "<"
  | .greater => ">"
  | .lessEqual => "<="
  | .greaterEqual => ">="
  | .leftBracket => "["
  | .rightBracket => "]"
  | .leftParen => "("
  | .rightParen => ")"
  | .leftBrace => "\x7b"
  | .rightBrace => "\x7d"
  | .dot => "."
  | .comma => ","
  | .colon => ":"

/-- A token of a filter. -/
inductive Token where
  /-- A number with its sign, a quoted text, `True`, `False` or `None`. -/
  | literal (value : Value)
  /-- A name of an entity, a field, a member or a function. -/
  | name (s : String)
  | symbol (s : Symbol)
  /-- What follows the last token. -/
  | endOfText
  deriving DecidableEq, Repr

/-- The token as a message shows it. -/
def Token.describe : Token → String
  | .literal value => value.describe
  | .name s => s
  | .symbol s => s.text
  | .endOfText => "end of input"

end RunFilter
