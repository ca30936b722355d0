import RunFilter.Dictionary
import RunFilter.Operator
import RunFilter.Value

/-!
# Filters

The tree of a filter: conditions on attributes of runs, experiments and metrics, combined with
`and`, `or` and `not`. An attribute is written as a path, with the place where it was written, so
that a later pass can report a mistake there.
-/

set_option autoImplicit false

namespace RunFilter

/-- What stands in brackets behind a field: a name, and a context if the field is a metric. -/
structure Subscript where
  name : String
  /-- The context as it was written. -/
  context : Option Dictionary
  deriving DecidableEq, Repr

/-- An attribute as it was written: `entity.field[subscript].member`. -/
structure AttributePath where
  entity : String
  field : String
  subscript : Option Subscript
  member : Option String
  /-- The place of the entity. -/
  offset : Nat
  deriving DecidableEq, Repr

/-- The path as messages show it, without the content of the subscript. -/
def AttributePath.dotted (p : AttributePath) : String :=
  p.entity ++ "." ++ p.field ++
    (if p.subscript.isSome then "[...]" else "") ++
    (match p.member with
      | some member => "." ++ member
      | none => "")

/-- A filter or a part of one. -/
inductive Filter where
  | literal (value : Value)
  /-- The right side of `in`. -/
  | list (values : List Value)
  | attribute (path : AttributePath)
  /-- A comparison and the place of its left operand. -/
  | comparison (left : Filter) (op : Operator) (right : Filter) (offset : Nat)
  | boolean (op : Connective) (operands : List Filter)
  /-- A call and the place where it begins; the receiver of a method is the first argument. -/
  | call (function : Function) (arguments : List Filter) (offset : Nat)
  deriving Repr, Inhabited, BEq

namespace Filter

/-- A conjunction of two filters. -/
def both (left right : Filter) : Filter := .boolean .and [left, right]

end Filter

end RunFilter
