/-!
# Operators and functions of the filter language

The comparison operators with their two symmetries (swapping the operands and negating the
result), the connectives, and the functions that a filter can call.
-/

set_option autoImplicit false

namespace RunFilter

/-- A comparison between an attribute and a constant. -/
inductive Operator where
  /-- `==`, `is` -/
  | equal
  /-- `!=`, `is not` -/
  | notEqual
  /-- `<` -/
  | less
  /-- `>` -/
  | greater
  /-- `<=` -/
  | lessEqual
  /-- `>=` -/
  | greaterEqual
  /-- `in`: a part of a text, or an element of a list -/
  | among
  /-- `not in` -/
  | notAmong
  deriving DecidableEq, Repr

namespace Operator

/-- **The operator with its operands swapped.** Membership has no such partner. -/
def swapped : Operator → Option Operator
  | .equal => some .equal
  | .notEqual => some .notEqual
  | .less => some .greater
  | .greater => some .less
  | .lessEqual => some .greaterEqual
  | .greaterEqual => some .lessEqual
  | .among | .notAmong => none

/-- **The operator that holds exactly when this one fails.** -/
def negated : Operator → Operator
  | .equal => .notEqual
  | .notEqual => .equal
  | .less => .greaterEqual
  | .greater => .lessEqual
  | .lessEqual => .greater
  | .greaterEqual => .less
  | .among => .notAmong
  | .notAmong => .among

/-- The operator in a statement. -/
def sql : Operator → String
  | .equal => "="
  | .notEqual => "<>"
  | .less => "<"
  | .greater => ">"
  | .lessEqual => "<="
  | .greaterEqual => ">="
  | .among => "IN"
  | .notAmong => "NOT IN"

@[simp] theorem negated_negated (op : Operator) : op.negated.negated = op := by
  cases op <;> rfl

/-- Swapping the operands twice changes nothing. -/
theorem swapped_swapped {op turned : Operator} (h : op.swapped = some turned) :
    turned.swapped = some op := by
  cases op <;> simp_all [swapped] <;> subst h <;> rfl

end Operator

/-- How conditions are combined. -/
inductive Connective where
  | and
  | or
  /-- Takes one operand. -/
  | not
  deriving DecidableEq, Repr

/-- A function of the filter language. -/
inductive Function where
  /-- `attribute.startswith(text)` -/
  | startsWith
  /-- `attribute.endswith(text)` -/
  | endsWith
  /-- `re.match(pattern, attribute)`: the pattern matches at the start of the text -/
  | patternAtStart
  /-- `re.search(pattern, attribute)`: the pattern matches somewhere in the text -/
  | patternAnywhere
  deriving DecidableEq, Repr

/-- The function as it is written in a filter. -/
def Function.name : Function → String
  | .startsWith => "startswith"
  | .endsWith => "endswith"
  | .patternAtStart => "re.match"
  | .patternAnywhere => "re.search"

end RunFilter
