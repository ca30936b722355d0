import RunFilter.Dialect
import RunFilter.Predicate
import RunFilter.Sql.Clause
import RunFilter.Sql.Identifier

/-!
# Writing predicates

A predicate becomes a clause of a dialect. Texts and numbers of the filter are bound, never
written. A negation turns the operator of a leaf round; a negated conjunction or disjunction is
written with `NOT`.
-/

set_option autoImplicit false

namespace RunFilter

/-- **A column**; the path into a document is bound. -/
def Column.fragment (d : Dialect) : Column → Fragment
  | .field table column =>
    .ofText (Sql.quoteIdentifier table ++ "." ++ Sql.quoteIdentifier column)
  | .expression sql => .ofText sql
  | .document table column path =>
    let document := Sql.quoteIdentifier table ++ "." ++ Sql.quoteIdentifier column
    ⟨d.documentTarget document ++ d.extractOperator ++ "?", [.text (d.path path)]⟩

/-- A condition that holds always or never. -/
def Fragment.ofBool (holds : Bool) : Fragment := .ofText (if holds then "1 = 1" else "1 = 0")

/-- A column, an operator and one bound value. -/
def Fragment.ofTest (column : Fragment) (operator : String) (value : Value) : Fragment :=
  ⟨column.sql ++ " " ++ operator ++ " ?", column.params ++ [value]⟩

namespace Test

/-- A comparison. Nothing is equal to NULL, so there `IS` stands for `=`. -/
def comparison (column : Fragment) (op : Operator) (value : Value) : Fragment :=
  match value, op with
  | .null, .equal => { column with sql := column.sql ++ " IS NULL" }
  | .null, .notEqual => { column with sql := column.sql ++ " IS NOT NULL" }
  | value, op => .ofTest column op.sql value

/-- Membership in a list; nothing is in the empty list. -/
def membership (column : Fragment) (values : List Value) (negated : Bool) : Fragment :=
  if values.isEmpty then .ofBool negated
  else
    let op := if negated then Operator.notAmong else .among
    let marks := String.intercalate ", " (values.map fun _ => "?")
    ⟨column.sql ++ " " ++ op.sql ++ " (" ++ marks ++ ")", column.params ++ values⟩

/-- **A test of a column, or its negation.** -/
def fragment (d : Dialect) (column : Column) (inverted : Bool) : Test → Fragment
  | .compare op value =>
    comparison (column.fragment d) (if inverted then op.negated else op) value
  | .like pattern negated =>
    .ofTest (column.fragment d) (Dialect.likeOperator (inverted != negated)) (.text pattern)
  | .among values negated => membership (column.fragment d) values (inverted != negated)
  | .matches pattern negated =>
    let target := column.fragment d
    .ofTest { target with sql := d.regexTarget target.sql }
      (d.regexOperator (inverted != negated)) (.text pattern)

end Test

namespace Predicate

/-- A clause, or its negation as a whole. -/
def wrapped (inverted : Bool) (c : Clause) : Clause := if inverted then .negation c else c

mutual
/-- **The clause of a predicate, or of its negation.** -/
def clause (d : Dialect) (inverted : Bool) : Predicate → Clause
  | .test column asked => .leaf (asked.fragment d column inverted)
  | .constant holds => .leaf (.ofBool (holds != inverted))
  | .all parts => wrapped inverted (.all (clauses d parts))
  | .any parts => wrapped inverted (.any (clauses d parts))
  | .negation part => part.clause d (!inverted)
/-- The clauses of predicates. -/
def clauses (d : Dialect) : List Predicate → List Clause
  | [] => []
  | p :: ps => p.clause d false :: clauses d ps
end

/-- The text of a predicate. -/
def fragment (d : Dialect) (p : Predicate) : Fragment := (p.clause d false).fragment

end Predicate

/-- **The condition of a statement**: the context tests, then the predicate, with `AND` between
them; none if there is nothing to test. -/
def whereFragment (d : Dialect) (contextFilters : List Predicate) (predicate : Option Predicate) :
    Option Fragment :=
  let conjuncts := contextFilters ++ predicate.toList
  if conjuncts.isEmpty then none
  else some (Clause.all (Predicate.clauses d conjuncts)).fragment

end RunFilter
