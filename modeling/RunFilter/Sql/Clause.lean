import RunFilter.Value

/-!
# Clauses

A clause is a condition of a statement before it is text: leaves that are text already, joined by
`AND` and `OR` or negated as a whole. `Clause.fragment` writes it; a part with operators of its own
gets parentheses, so that `AND` and `OR` never meet without them.
-/

set_option autoImplicit false

namespace RunFilter

/-- A piece of a statement with the values of its placeholders in order. -/
structure Fragment where
  sql : String
  params : List Value
  deriving DecidableEq, Repr

namespace Fragment

/-- A piece without values. -/
def ofText (sql : String) : Fragment := ⟨sql, []⟩

/-- The piece in parentheses. -/
def grouped (f : Fragment) : Fragment := { f with sql := "(" ++ f.sql ++ ")" }

/-- Pieces with a separator between them, and their values in the same order. -/
def join (separator : String) (parts : List Fragment) : Fragment :=
  { sql := String.intercalate separator (parts.map (·.sql))
    params := parts.flatMap (·.params) }

end Fragment

/-- A condition of a statement. -/
inductive Clause where
  | leaf (fragment : Fragment)
  | all (parts : List Clause)
  | any (parts : List Clause)
  | negation (part : Clause)
  deriving Repr, Inhabited, BEq

namespace Clause

/-- Whether the text of a clause has an operator that its surroundings could tear apart. -/
def isCompound : Clause → Bool
  | .all parts | .any parts => 1 < parts.length
  | .leaf _ | .negation _ => false

mutual
/-- **The text of a clause.** -/
def fragment : Clause → Fragment
  | .leaf f => f
  | .negation part =>
    let inner := part.fragment
    { inner with sql := "NOT (" ++ inner.sql ++ ")" }
  | .all parts => Fragment.join " AND " (operands (1 < parts.length) parts)
  | .any parts => Fragment.join " OR " (operands (1 < parts.length) parts)
/-- The texts of operands; where there are several, those with operators of their own are
grouped. -/
def operands (several : Bool) : List Clause → List Fragment
  | [] => []
  | c :: cs =>
    (if several && c.isCompound then c.fragment.grouped else c.fragment) :: operands several cs
end

end Clause

end RunFilter
