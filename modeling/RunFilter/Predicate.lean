import RunFilter.Operator
import RunFilter.Value

/-!
# Predicates

A filter after its attributes have become columns: tests on columns, combined with `all`, `any`
and `negation`. No spelling of a database is chosen here.
-/

set_option autoImplicit false

namespace RunFilter

/-- A column of a statement. -/
inductive Column where
  /-- A column of a table or of a joined table. -/
  | field (table column : String)
  /-- An expression made of trusted names. -/
  | expression (sql : String)
  /-- A text inside a document column, with the keys on the way to it. -/
  | document (table column : String) (path : List String)
  deriving DecidableEq, Repr

/-- What is asked of the text or number in a column. -/
inductive Test where
  | compare (op : Operator) (value : Value)
  /-- The text is of the form of a pattern of `LIKE`. -/
  | like (pattern : String) (negated : Bool)
  /-- The value is one of a list. -/
  | among (values : List Value) (negated : Bool)
  /-- A regular expression matches somewhere in the text. -/
  | matches (pattern : String) (negated : Bool)
  deriving DecidableEq, Repr

/-- A filter on columns. -/
inductive Predicate where
  | test (column : Column) (test : Test)
  /-- Decided without a column. -/
  | constant (holds : Bool)
  | all (parts : List Predicate)
  | any (parts : List Predicate)
  | negation (part : Predicate)
  deriving Repr, Inhabited, BEq

end RunFilter
