import RunFilter.Attribute
import RunFilter.Predicate

/-!
# Conditions

`Filter.condition` checks a filter: every leaf has to be a comparison, a call or a flag whose
operands fit. The leaves of the result are tests on attributes that exist. The check needs nothing
but the filter and the table names, so a leaf is right or wrong whatever stands beside it, and the
first wrong leaf is the one reported.
-/

set_option autoImplicit false

namespace RunFilter

/-- A checked filter. -/
inductive Condition where
  | test (ref : Reference) (part : Part) (test : Test)
  /-- A test of the first step, decided by the check. -/
  | decided (ref : Reference) (holds : Bool)
  | all (parts : List Condition)
  | any (parts : List Condition)
  | negation (part : Condition)
  deriving Repr, Inhabited, BEq

namespace Condition

/-! ## Comparisons -/

/-- A flag compared with `True` or `False`. -/
def ofFlag (ref : Reference) (column value : String) (op : Operator) (expected : Bool) :
    Except Fault Condition :=
  let test (holds : Bool) : Condition :=
    .test ref (.column column) (.compare (if holds then .equal else .notEqual) (.text value))
  match op with
  | .equal => .ok (test expected)
  | .notEqual => .ok (test !expected)
  | _ => .error .flagOperator

/-- Whether an order between two numbers is the one that an operator asks for. -/
def decide? (op : Operator) (order : Ordering) : Except Fault Bool :=
  match op with
  | .equal => .ok order.isEq
  | .notEqual => .ok order.isNe
  | .less => .ok order.isLT
  | .lessEqual => .ok order.isLE
  | .greater => .ok order.isGT
  | .greaterEqual => .ok order.isGE
  | .among | .notAmong => .error .listOperator

/-- The first step compared with a constant. The step is zero, so a number with a fraction is
compared with zero. -/
def ofStep (ref : Reference) (op : Operator) (value : Value) : Except Fault Condition :=
  let decided (order : Ordering) : Except Fault Condition := (decide? op order).map (.decided ref)
  match value with
  | .int n => decided (compare firstStep n)
  | .float x =>
    match x.zeroCompare with
    | some order => decided order
    | none => .error .stepWithNaN
  | .null =>
    match op with
    | .equal => .ok (.decided ref false)
    | .notEqual => .ok (.decided ref true)
    | _ => .error .stepWithNone
  | _ => .error .stepOperand

/-- A column compared with a constant on its right. -/
def ofColumn (ref : Reference) (part : Part) (op : Operator) (value : Value) :
    Except Fault Condition :=
  match op, value with
  | .among, _ | .notAmong, _ => .error .listExpected
  | .equal, _ | .notEqual, _ | _, .text _ | _, .int _ | _, .float _ =>
    .ok (.test ref part (.compare op value))
  | _, _ => .error .orderOperand

/-- A comparison with the constant on the left, as one with the constant on the right. -/
def ofSwapped (op : Operator) (turned : Operator → Except Fault Condition) :
    Except Fault Condition :=
  match op.swapped with
  | some op => turned op
  | none => .error .notComparable

/-- A constant on the left of a column: a part of a text, or a comparison turned round. -/
def ofPart (value : Value) (op : Operator) (ref : Reference) (part : Part) :
    Except Fault Condition :=
  let substring (negated : Bool) : Except Fault Condition :=
    match value with
    | .text s => .ok (.test ref part (.like ("%" ++ s ++ "%") negated))
    | _ => .error .substringNotText
  match op with
  | .among => substring false
  | .notAmong => substring true
  | op => ofSwapped op fun op => ofColumn ref part op value

/-- A column and a list. -/
def ofList (ref : Reference) (part : Part) (op : Operator) (values : List Value) :
    Except Fault Condition :=
  match op with
  | .among => .ok (.test ref part (.among values false))
  | .notAmong => .ok (.test ref part (.among values true))
  | _ => .error .listOperator

/-- **A comparison of two operands**: an attribute and a constant in either order, or an attribute
and a list. -/
def ofComparison (left : Operand) (op : Operator) (right : Operand) : Except Fault Condition :=
  match left, right with
  | .flag ref column value, .constant (.bool expected)
  | .constant (.bool expected), .flag ref column value => ofFlag ref column value op expected
  | .flag .., _ | _, .flag .. => .error .flagOperand
  | .step ref, .constant value => ofStep ref op value
  | .constant value, .step ref => ofSwapped op fun op => ofStep ref op value
  | .column ref part, .constant value => ofColumn ref part op value
  | .constant value, .column ref part => ofPart value op ref part
  | .column ref part, .list values => ofList ref part op values
  | _, _ => .error .attributeMissing

end Condition

/-! ## Operands and calls -/

namespace Filter

/-- **An operand of a comparison or a call at `offset`.** What is wrong with an attribute is
reported at the attribute. -/
def operand? (tables : Dictionary) (offset : Nat) : Filter → Except SyntaxError Operand
  | .literal value => .ok (.constant value)
  | .list values => .ok (.list values)
  | .attribute path => (path.operand tables).mapError (·.at path.offset)
  | _ => .error (Fault.conditionAsOperand.at offset)

/-- The text constant that a filter is, if it is one. -/
def text? : Filter → Option String
  | .literal (.text s) => some s
  | _ => none

/-- The attribute that a function works on: one with a text or a number in a column. -/
def subject (tables : Dictionary) (function : Function) (offset : Nat) (filter : Filter) :
    Except SyntaxError (Reference × Part) := do
  match ← filter.operand? tables offset with
  | .column ref part => pure (ref, part)
  | _ => throw ((Fault.subjectNotText function).at offset)

/-- A test of the beginning or the end of a text. -/
def affixCondition (tables : Dictionary) (function : Function) (offset : Nat)
    (receiver affix : Filter) (pattern : String → String) : Except SyntaxError Condition := do
  let (ref, part) ← receiver.subject tables function offset
  match affix.text? with
  | some s => pure (.test ref part (.like (pattern s) false))
  | none => throw ((Fault.affixNotText function).at offset)

/-- A test by a regular expression. -/
def patternCondition (tables : Dictionary) (function : Function) (offset : Nat)
    (source subject : Filter) (pattern : String → String) : Except SyntaxError Condition := do
  match source.text? with
  | none => throw ((Fault.patternNotText function).at offset)
  | some s =>
    let (ref, part) ← subject.subject tables function offset
    pure (.test ref part (.matches (pattern s) false))

/-- **A call.** The functions differ in the order of their arguments and in the pattern that they
make of the text argument. -/
def callCondition (tables : Dictionary) (function : Function) (offset : Nat) :
    List Filter → Except SyntaxError Condition
  | [first, second] =>
    match function with
    | .startsWith => affixCondition tables function offset first second (· ++ "%")
    | .endsWith => affixCondition tables function offset first second ("%" ++ ·)
    | .patternAtStart => patternCondition tables function offset first second ("^" ++ ·)
    | .patternAnywhere => patternCondition tables function offset first second id
  | _ => .error ((Fault.argumentCount function).at offset)

/-- **A comparison.** -/
def comparisonCondition (tables : Dictionary) (left : Filter) (op : Operator) (right : Filter)
    (offset : Nat) : Except SyntaxError Condition := do
  let left ← left.operand? tables offset
  let right ← right.operand? tables offset
  (Condition.ofComparison left op right).mapError (·.at offset)

/-- An attribute on its own: only a flag is a condition. -/
def attributeCondition (tables : Dictionary) (path : AttributePath) :
    Except SyntaxError Condition := do
  match ← (path.operand tables).mapError (·.at path.offset) with
  | .flag ref column value => pure (.test ref (.column column) (.compare .equal (.text value)))
  | _ => throw ((Fault.notACondition path.dotted).at path.offset)

/-- The condition of a connective. -/
def combine (op : Connective) (parts : List Condition) : Except SyntaxError Condition :=
  match op, parts with
  | .and, parts => .ok (.all parts)
  | .or, parts => .ok (.any parts)
  | .not, [part] => .ok (.negation part)
  | .not, _ => .error (Fault.negationOperands.at 0)

mutual
/-- **The condition of a filter**, or the first mistake in it. -/
def condition (tables : Dictionary) : Filter → Except SyntaxError Condition
  | .boolean op operands => do combine op (← conditions tables operands)
  | .comparison left op right offset => comparisonCondition tables left op right offset
  | .call function arguments offset => callCondition tables function offset arguments
  | .attribute path => attributeCondition tables path
  | .literal _ | .list _ => .error (Fault.constantAlone.at 0)
/-- The conditions of filters from left to right. -/
def conditions (tables : Dictionary) : List Filter → Except SyntaxError (List Condition)
  | [] => .ok []
  | f :: fs => do
    let first ← f.condition tables
    let rest ← conditions tables fs
    pure (first :: rest)
end

end Filter

end RunFilter
