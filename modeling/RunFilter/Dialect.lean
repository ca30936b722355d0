import RunFilter.Text.Ascii
import RunFilter.Text.Blank

/-!
# Dialects

The two databases that statements are written for. All that they spell differently is here:
patterns, documents and placeholders.
-/

set_option autoImplicit false

namespace RunFilter

/-- A database. -/
inductive Dialect where
  | postgres
  | sqlite
  deriving DecidableEq, Repr

namespace Dialect

/-- The name in settings and answers. -/
def name : Dialect → String
  | .postgres => "postgres"
  | .sqlite => "sqlite"

/-- The dialect of a name, whatever the case of its letters and the blanks around it. -/
def ofName? (s : String) : Option Dialect :=
  match Text.lower (Text.trim s) with
  | "postgres" | "postgresql" => some .postgres
  | "sqlite" | "sqlite3" => some .sqlite
  | _ => none

/-- The operator of a pattern with `%` and `_`. -/
def likeOperator (negated : Bool) : String := if negated then "NOT LIKE" else "LIKE"

/-- The left side of a match by a regular expression. SQLite matches no NULL, so there a NULL
counts as the empty text. -/
def regexTarget (column : String) : Dialect → String
  | .postgres => column
  | .sqlite => "IFNULL(" ++ column ++ ", '')"

/-- The operator of a match by a regular expression. -/
def regexOperator (negated : Bool) : Dialect → String
  | .postgres => if negated then "!~" else "~"
  | .sqlite => if negated then "NOT REGEXP" else "REGEXP"

/-- The document in a column. -/
def documentTarget (column : String) : Dialect → String
  | .postgres => column
  | .sqlite => "IFNULL(" ++ column ++ ", JSON('\x7b\x7d'))"

/-- The operator that takes a text out of a document. -/
def extractOperator : Dialect → String
  | .postgres => "#>>"
  | .sqlite => "->>"

/-- The placeholder of the parameter with an index, counted from one. -/
def placeholder (index : Nat) : Dialect → String
  | .postgres => "$" ++ toString index
  | .sqlite => "?"

/-! ## Paths into documents -/

/-- A character that means something in an array literal. -/
def isArraySyntax (c : Char) : Bool :=
  Text.isBlank c || c == ',' || c == '\x7b' || c == '\x7d' || c == '"' || c == '\\'

/-- Whether an array literal would read the bare key as something else. -/
def needsQuotes (key : List Char) : Bool :=
  key.isEmpty || key.map Char.toLower == ['n', 'u', 'l', 'l'] || key.any isArraySyntax

/-- A backslash before every character of a set. -/
def escapeWith (escaped : Char → Bool) (key : List Char) : List Char :=
  key.flatMap fun c => if escaped c then ['\\', c] else [c]

/-- **A key in an array literal**: in quotes where it has to be. -/
def arrayElement (key : List Char) : List Char :=
  if needsQuotes key then '"' :: escapeWith (fun c => c == '\\' || c == '"') key ++ ['"'] else key

/-- Whether a key can stand bare in a document path. -/
def isPlainLabel (key : List Char) : Bool := !key.isEmpty && key.all Text.isNamePart

/-- **A key in a document path**: behind a dot, in quotes where it has to be. -/
def pathLabel (key : List Char) : List Char :=
  '.' :: if isPlainLabel key then key else '"' :: escapeWith (· == '"') key ++ ['"']

/-- **The path to a text in a document**, as it is bound: an array literal for Postgres, a path
from `$` for SQLite. -/
def path (keys : List String) : Dialect → String
  | .postgres =>
    let elements := keys.map fun key => arrayElement key.toList
    String.ofList ('\x7b' :: List.intercalate [','] elements ++ ['\x7d'])
  | .sqlite => String.ofList ('$' :: keys.flatMap fun key => pathLabel key.toList)

end Dialect

end RunFilter
