import RunFilter.Binary64.Layout
import RunFilter.Text.Quoted

/-!
# Values

The constants of a filter and the values bound to a statement are the same things: a constant that
the user typed is bound as it was typed, so whole numbers and numbers with a fraction stay apart.
-/

set_option autoImplicit false

namespace RunFilter

/-- A constant of a filter, or a value bound to a statement. -/
inductive Value where
  /-- `None`, bound as NULL. -/
  | null
  | bool (b : Bool)
  | int (n : Int)
  | float (x : Binary64)
  | text (s : String)
  deriving DecidableEq, Repr, Inhabited

namespace Value

/-- The value as a message shows it. -/
def describe : Value → String
  | .null => "None"
  | .bool true => "True"
  | .bool false => "False"
  | .int n => toString n
  | .float x => Layout.message.number x
  | .text s => Text.quoted s

end Value

end RunFilter
