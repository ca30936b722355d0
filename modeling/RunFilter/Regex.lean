import RunFilter.Regex.Grammar
import RunFilter.Regex.Walk

/-!
# Regular expressions

The regular expressions that filters match texts by, as a database without regular expressions of
its own calls for them. Matching is a search: an expression matches a text if it is found anywhere
in it.
-/

set_option autoImplicit false

namespace RunFilter

/-- A regular expression: a text and the pattern that it stands for. -/
structure Regex where
  source : String
  pattern : Regex.Pattern
  reads : Regex.Pattern.ofText? source.toList = some pattern

namespace Regex

/-- The regular expression of a text, if the text is one. -/
def ofString? (source : String) : Option Regex :=
  match h : Pattern.ofText? source.toList with
  | some pattern => some ⟨source, pattern, h⟩
  | none => none

/-- **Whether the expression is found** anywhere in a text. -/
def isFoundIn (regex : Regex) (text : String) : Bool := regex.pattern.isFoundIn text.toList

/-- **Whether a text has a part that matches**, or nothing if the source is no regular
expression. -/
def search? (source text : String) : Option Bool := (ofString? source).map (·.isFoundIn text)

end Regex

end RunFilter
