import RunFilter.Operator
import RunFilter.Text.Offset
import RunFilter.Token

/-!
# What can be wrong with a filter

`Fault` has a case for every mistake that the reader of filters and the check of their attributes
report. Its wording is `Fault.message` and its category `Fault.kind`; nothing else in the library
words a mistake. A `SyntaxError` is a mistake as it is reported: category, place and wording,
together with the filter text once that is known.
-/

set_option autoImplicit false

namespace RunFilter

/-- The categories of mistakes. -/
inductive ErrorKind where
  /-- A text that does not end, a number out of range, or a character of no token. -/
  | tokenize
  /-- Tokens in an order that the grammar does not know, or operands that do not fit. -/
  | parse
  /-- An entity, field, member or function that does not exist. -/
  | unknownAttribute
  /-- A subscript of the wrong shape, or where none belongs. -/
  | malformedSubscript
  deriving DecidableEq, Repr

/-- The category as a message names it. -/
def ErrorKind.text : ErrorKind → String
  | .tokenize => "tokenize"
  | .parse => "parse"
  | .unknownAttribute => "unknown attribute"
  | .malformedSubscript => "malformed subscript"

/-- What the grammar asks for at a place. -/
inductive Expectation where
  | symbol (s : Symbol)
  | name
  | literal
  | operand
  | dotAfter (entity : String)
  | inAfterNot
  | endOfFilter
  deriving DecidableEq, Repr

/-- The expectation as a message words it. -/
def Expectation.message : Expectation → String
  | .symbol s => "expected " ++ s.text
  | .name => "expected identifier"
  | .literal => "expected literal"
  | .operand => "expected expression"
  | .dotAfter entity => "expected '.' after " ++ entity
  | .inAfterNot => "expected 'in' after 'not'"
  | .endOfFilter => "expected end of expression"

/-- A mistake in a filter. -/
inductive Fault where
  -- characters
  | unterminatedText
  | strayEquals
  | strayBang
  | unexpectedCharacter (c : Char)
  | integerOutOfRange (numeral : String)
  -- order of tokens
  | nestedTooDeeply
  | expected (what : Expectation) (found : Token)
  | strayAccess (found : Token)
  | misplacedContext
  | unsupportedFunction (name : String)
  | unsupportedMethod (path name : String)
  | secondSubscript
  | strayCall
  | unsupportedPatternFunction (name : String)
  | memberOfMember (path name : String)
  -- subscripts
  | contextBeforeName
  | subscriptWithoutName (found : Token)
  | contextExpected (found : Token)
  | subscriptNotClosed
  | contextKeyNotText (found : Token)
  | contextValueNotText (found : Token)
  | subscriptNotTaken (entity field : String)
  | contextNotTaken (entity field : String)
  -- conditions
  | negationOperands
  | notACondition (path : String)
  | constantAlone
  | conditionAsOperand
  -- comparisons
  | flagOperator
  | flagOperand
  | substringNotText
  | listOperator
  | listExpected
  | orderOperand
  | notComparable
  | attributeMissing
  | stepOperand
  | stepWithNone
  | stepWithNaN
  -- calls
  | argumentCount (function : Function)
  | affixNotText (function : Function)
  | patternNotText (function : Function)
  | subjectNotText (function : Function)
  -- attributes
  | unknownEntity (name : String)
  | entityUnavailable (name : String)
  | unknownField (entity field : String)
  | unknownMember (entity field member : String)
  | memberOfKey (entity field member : String)
  | keyMissing (entity field : String)
  | experimentUnavailable
  | contextUnavailable
  | seriesWithoutName
  | seriesMember (member : String)
  deriving DecidableEq, Repr

namespace Fault

/-- The category of a mistake. -/
def kind : Fault → ErrorKind
  | unterminatedText | strayEquals | strayBang | unexpectedCharacter _ | integerOutOfRange _ =>
    .tokenize
  | contextBeforeName | subscriptWithoutName _ | contextExpected _ | subscriptNotClosed
  | contextKeyNotText _ | contextValueNotText _ | subscriptNotTaken .. | contextNotTaken .. =>
    .malformedSubscript
  | unsupportedPatternFunction _ | memberOfMember .. | unknownEntity _ | entityUnavailable _
  | unknownField .. | unknownMember .. | memberOfKey .. | keyMissing .. | experimentUnavailable
  | contextUnavailable | seriesWithoutName | seriesMember _ =>
    .unknownAttribute
  | _ => .parse

/-- How many arguments a function takes, the receiver of a method aside. -/
def argumentNumber : Function → String
  | .startsWith | .endsWith => "exactly one argument"
  | .patternAtStart | .patternAnywhere => "exactly two arguments"

/-- The wording of a mistake. -/
def message : Fault → String
  | unterminatedText => "unterminated string: missing closing quote"
  | strayEquals => "unexpected '=' (did you mean '=='?)"
  | strayBang => "unexpected '!' (did you mean '!=' or 'not'?)"
  | unexpectedCharacter c => "unexpected character '" ++ String.singleton c ++ "'"
  | integerOutOfRange numeral => "integer literal " ++ numeral ++ " is out of range"
  | nestedTooDeeply => "expression nested too deeply"
  | expected what found => what.message ++ ", got " ++ found.describe
  | strayAccess found => "unexpected attribute access, got " ++ found.describe
  | misplacedContext => "dict literals are only allowed inside a metric subscript"
  | unsupportedFunction name => "unsupported function " ++ name ++ "()"
  | unsupportedMethod path name => "unsupported method " ++ path ++ "." ++ name ++ "()"
  | secondSubscript => "only one subscript is allowed, directly after the field"
  | strayCall => "unsupported function call"
  | unsupportedPatternFunction name => "unsupported re function " ++ Text.quoted name
  | memberOfMember path name => "unsupported attribute " ++ path ++ "." ++ name
  | contextBeforeName => "the metric name must be the first subscript element"
  | subscriptWithoutName found =>
    "subscript must start with a string name, got " ++ found.describe
  | contextExpected found =>
    "second subscript element must be a context dict, got " ++ found.describe
  | subscriptNotClosed => "subscript takes a name and at most one context dict"
  | contextKeyNotText found => "context keys must be strings, got " ++ found.describe
  | contextValueNotText found => "context values must be strings, got " ++ found.describe
  | subscriptNotTaken entity field => entity ++ "." ++ field ++ " does not take a subscript"
  | contextNotTaken entity field => entity ++ "." ++ field ++ " does not take a context"
  | negationOperands => "'not' takes exactly one operand"
  | notACondition path => path ++ " is not a condition; compare it with a value"
  | constantAlone => "a literal on its own is not a condition"
  | conditionAsOperand => "expected an attribute or a literal, found a condition"
  | flagOperator => "boolean attributes only support == and !="
  | flagOperand => "boolean attributes can only be compared with True or False"
  | substringNotText => "left side of a substring 'in' must be a string"
  | listOperator => "lists can only be used with 'in' and 'not in'"
  | listExpected => "'in' with an attribute on the left needs a list on the right"
  | orderOperand => "ordering comparisons need a string or number"
  | notComparable => "unsupported comparison"
  | attributeMissing => "unsupported comparison: compare an attribute with a literal"
  | stepOperand => "step attributes can only be compared with numbers"
  | stepWithNone => "None only supports == and !="
  | stepWithNaN => "cannot compare with NaN"
  | argumentCount function => "`" ++ function.name ++ "` takes " ++ argumentNumber function
  | affixNotText function => "`" ++ function.name ++ "` argument must be a string"
  | patternNotText function => "first argument of `" ++ function.name ++ "` must be a string"
  | subjectNotText function => "`" ++ function.name ++ "` needs a text attribute"
  | unknownEntity name => "unknown entity " ++ Text.quoted name
  | entityUnavailable name => name ++ " attributes are not available in this search"
  | unknownField entity field => "unknown attribute " ++ entity ++ "." ++ field
  | unknownMember entity field member =>
    "unknown attribute " ++ entity ++ "." ++ field ++ "." ++ member
  | memberOfKey entity field member =>
    "unknown attribute " ++ entity ++ "." ++ field ++ "[...]." ++ member
  | keyMissing entity field =>
    let path := entity ++ "." ++ field
    path ++ " needs a key, as in " ++ path ++ "[\"name\"]"
  | experimentUnavailable => "run.experiment is not available in this search"
  | contextUnavailable => "metric.context is not available in this search"
  | seriesWithoutName =>
    "run.metrics needs a metric name, as in run.metrics[\"loss\"].last"
  | seriesMember member =>
    "unsupported metric attribute " ++ Text.quoted member ++
      ", expected last, last_step or first_step"

end Fault

/-- A mistake as it is reported to the user. -/
structure SyntaxError where
  kind : ErrorKind
  /-- The place in the filter text. -/
  offset : Nat
  message : String
  /-- The filter text, empty as long as it is not attached. -/
  statement : String
  deriving DecidableEq, Repr

/-- The report of a mistake at a place. -/
def Fault.at (fault : Fault) (offset : Nat) : SyntaxError :=
  { kind := fault.kind, offset, message := fault.message, statement := "" }

namespace SyntaxError

/-- The report with the filter text that it is about. -/
def inStatement (e : SyntaxError) (statement : String) : SyntaxError := { e with statement }

/-- The filter text from the place of the mistake on. -/
def fragment (e : SyntaxError) : String := Text.fragmentAt e.statement e.offset

/-- The report in one line. -/
def display (e : SyntaxError) : String :=
  e.kind.text ++ " error at offset " ++ toString e.offset ++ " in " ++ Text.quoted e.statement ++
    ": " ++ e.message

/-- **The excerpt under a report**: the filter text and a caret below the character at the place of
the mistake. There is none if the place is no place of the text. -/
def excerpt (e : SyntaxError) : Option String :=
  (Text.splitAt? e.offset e.statement.toList).map fun (before, _) =>
    "  " ++ e.statement ++ "\n  " ++ String.ofList (List.replicate before.length ' ') ++ "^"

/-- A mistake in a filter is the client's: the status of HTTP that says so. -/
def status (_ : SyntaxError) : Nat := 400

end SyntaxError

end RunFilter
