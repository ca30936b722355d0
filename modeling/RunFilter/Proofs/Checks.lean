import RunFilter.Condition
import RunFilter.Proofs.Parsing.Passing

/-!
# What the check of a leaf results in

The check of a leaf is a chain of functions, one for each kind of operand. Both of its results are
bounded here, once for each function: an answer is a well-typed test of the attribute of one
operand, in the part that the operand names, and the other side is a constant; a mistake is about an
attribute among the operands, or one of the grammar at the place of the leaf.

Which attribute a checked leaf tests, that its names are identifiers, that its operator fits its
value, and where its mistakes stand, all follow from these bounds without another look at the check.
-/

set_option autoImplicit false

namespace RunFilter

/-- **A test whose operator fits its value**: it compares a column with one value, and is an
equation or its negation if the value has no order. -/
def Test.WellTyped : Test → Prop
  | .compare op value =>
    op.sql ∈ ["=", "<>", "<", ">", "<=", ">="] ∧
      ((value = .null ∨ ∃ b, value = .bool b) → op.sql ∈ ["=", "<>"])
  | .like _ _ | .among _ _ | .matches _ _ => True

/-- **The tests of an operand**: those of its attribute, in the part that it names. -/
inductive Operand.Tests : Operand → Condition → Prop
  | column (ref : Reference) (part : Part) {asked : Test} (typed : asked.WellTyped) :
      Tests (.column ref part) (.test ref part asked)
  | flag (ref : Reference) (column value : String) {asked : Test} (typed : asked.WellTyped) :
      Tests (.flag ref column value) (.test ref (.column column) asked)
  | step (ref : Reference) (holds : Bool) : Tests (.step ref) (.decided ref holds)

/-- An operand without an attribute. -/
inductive Operand.IsConstant : Operand → Prop
  | constant (value : Value) : IsConstant (.constant value)
  | list (values : List Value) : IsConstant (.list values)

namespace Condition

variable {ref : Reference} {part : Part} {op : Operator} {value : Value}

/-- A fault of two sides that do not fit: one of the grammar, not of an attribute. -/
def Unfit (fault : Fault) : Prop := fault.kind = .parse

theorem wellTyped_equation (text : String) (holds : Bool) :
    (Test.compare (if holds then .equal else .notEqual) (.text text)).WellTyped := by
  cases holds <;> exact ⟨by decide, fun _ => by decide⟩

theorem within_ofFlag {column text : String} {expected : Bool} :
    Within Unfit (Operand.Tests (.flag ref column text))
      (ofFlag ref column text op expected) := by
  cases op with
  | equal | notEqual => exact .flag _ _ _ (wellTyped_equation text _)
  | less | greater | lessEqual | greaterEqual | among | notAmong => exact rfl

theorem within_ofSwapped {good : Condition → Prop} {turned : Operator → Except Fault Condition}
    (within : ∀ op, Within Unfit good (turned op)) : Within Unfit good (ofSwapped op turned) := by
  unfold ofSwapped
  split
  · exact within _
  · exact rfl

theorem within_ofStep : Within Unfit (Operand.Tests (.step ref)) (ofStep ref op value) := by
  have decided : ∀ order : Ordering, Within Unfit (Operand.Tests (.step ref))
      ((decide? op order).map (Condition.decided ref)) := by
    intro order
    cases op with
    | among | notAmong => exact rfl
    | equal | notEqual | less | greater | lessEqual | greaterEqual => exact .step ..
  unfold ofStep
  dsimp only
  split
  · exact decided _
  · split
    · exact decided _
    · exact rfl
  · split
    · exact .step ..
    · exact .step ..
    · exact rfl
  · exact rfl

theorem within_ofColumn :
    Within Unfit (Operand.Tests (.column ref part)) (ofColumn ref part op value) := by
  cases op with
  | among | notAmong => exact rfl
  | equal | notEqual => exact .column _ _ ⟨by decide, fun _ => by decide⟩
  | less | greater | lessEqual | greaterEqual =>
    cases value with
    | null | bool => exact rfl
    | int | float | text => exact .column _ _ ⟨by decide, by simp⟩

theorem within_ofPart :
    Within Unfit (Operand.Tests (.column ref part)) (ofPart value op ref part) := by
  cases op with
  | among | notAmong =>
    cases value with
    | text s => exact .column _ _ trivial
    | null | bool | int | float => exact rfl
  | equal | notEqual | less | greater | lessEqual | greaterEqual =>
    unfold ofPart
    exact within_ofSwapped fun op => within_ofColumn

theorem within_ofList {values : List Value} :
    Within Unfit (Operand.Tests (.column ref part)) (ofList ref part op values) := by
  cases op with
  | among | notAmong => exact .column _ _ trivial
  | equal | notEqual | less | greater | lessEqual | greaterEqual => exact rfl

/-- **A comparison tests one of its sides**, and the other is a constant or a list. -/
theorem within_ofComparison {left right : Operand} :
    Within Unfit
      (fun c => left.Tests c ∧ right.IsConstant ∨ left.IsConstant ∧ right.Tests c)
      (ofComparison left op right) := by
  unfold ofComparison
  split
  · exact within_ofFlag.mono fun _ tests => .inl ⟨tests, .constant _⟩
  · exact within_ofFlag.mono fun _ tests => .inr ⟨.constant _, tests⟩
  · exact rfl
  · exact rfl
  · exact within_ofStep.mono fun _ tests => .inl ⟨tests, .constant _⟩
  · exact (within_ofSwapped fun op => within_ofStep).mono fun _ tests => .inr ⟨.constant _, tests⟩
  · exact within_ofColumn.mono fun _ tests => .inl ⟨tests, .constant _⟩
  · exact within_ofPart.mono fun _ tests => .inr ⟨.constant _, tests⟩
  · exact within_ofList.mono fun _ tests => .inl ⟨tests, .list _⟩
  · exact rfl

end Condition

/-! ## Operands and calls -/

namespace Filter

/-- **The operand that a filter stands for.** -/
inductive Denotes (tables : Dictionary) : Filter → Operand → Prop
  | literal (value : Value) : Denotes tables (.literal value) (.constant value)
  | list (values : List Value) : Denotes tables (.list values) (.list values)
  | path {p : AttributePath} {operand : Operand} (h : p.operand tables = .ok operand) :
      Denotes tables (.attribute p) operand

/-- **What checking a leaf reports**: an operand that stands for no attribute, or a mistake of the
grammar at the place of the leaf. -/
inductive Refused (tables : Dictionary) (operands : List Filter) (place : Nat) : SyntaxError → Prop
  | path {p : AttributePath} {fault : Fault} (mem : .attribute p ∈ operands)
      (h : p.operand tables = .error fault) : Refused tables operands place (fault.at p.offset)
  | order {fault : Fault} (kind : fault.kind = .parse) :
      Refused tables operands place (fault.at place)

variable {tables : Dictionary} {operands : List Filter} {place : Nat}

theorem within_operand? {f : Filter} (mem : f ∈ operands) :
    Within (Refused tables operands place) (f.Denotes tables) (f.operand? tables place) := by
  unfold operand?
  split
  · exact .literal _
  · exact .list _
  next p =>
    cases found : p.operand tables with
    | error fault => exact .path mem found
    | ok operand => exact .path found
  · exact .order rfl

theorem within_subject {f : Filter} (mem : f ∈ operands) (function : Function) :
    Within (Refused tables operands place) (fun x => f.Denotes tables (.column x.1 x.2))
      (f.subject tables function place) := by
  unfold subject
  refine (within_operand? mem).bind fun operand _ denotes => ?_
  split
  · exact denotes
  · exact .order rfl

/-- A call tests its subject; its other argument is a text. -/
def TestsSubject (tables : Dictionary) (subject other : Filter) (c : Condition) : Prop :=
  ∃ ref part s, subject.Denotes tables (.column ref part) ∧ (Operand.column ref part).Tests c ∧
    other.text? = some s

theorem within_affixCondition {receiver affix : Filter} (mem : receiver ∈ operands)
    (function : Function) (pattern : String → String) :
    Within (Refused tables operands place) (receiver.TestsSubject tables affix)
      (affixCondition tables function place receiver affix pattern) := by
  unfold affixCondition
  refine (within_subject mem function).bind fun (ref, part) _ denotes => ?_
  dsimp only
  split
  next s text => exact ⟨ref, part, s, denotes, .column _ _ trivial, text⟩
  · exact .order rfl

theorem within_patternCondition {source subject : Filter} (mem : subject ∈ operands)
    (function : Function) (pattern : String → String) :
    Within (Refused tables operands place) (subject.TestsSubject tables source)
      (patternCondition tables function place source subject pattern) := by
  unfold patternCondition
  split
  · exact .order rfl
  next s text =>
    exact (within_subject mem function).bind fun (ref, part) _ denotes =>
      ⟨ref, part, s, denotes, .column _ _ trivial, text⟩

/-- **A call has two arguments**, a text and the attribute that it tests. -/
theorem within_callCondition (function : Function) (place : Nat) (arguments : List Filter) :
    Within (Refused tables arguments place)
      (fun c => ∃ first second, arguments = [first, second] ∧
        (first.TestsSubject tables second c ∨ second.TestsSubject tables first c))
      (callCondition tables function place arguments) := by
  unfold callCondition
  split
  next first second =>
    have ofFirst : first ∈ [first, second] := List.mem_cons_self
    have ofSecond : second ∈ [first, second] := List.mem_cons_of_mem _ List.mem_cons_self
    cases function with
    | startsWith | endsWith =>
      exact (within_affixCondition ofFirst _ _).mono fun _ tests => ⟨_, _, rfl, .inl tests⟩
    | patternAtStart | patternAnywhere =>
      exact (within_patternCondition ofSecond _ _).mono fun _ tests => ⟨_, _, rfl, .inr tests⟩
  · exact .order rfl

/-- **A comparison tests one of its operands**, and the other has no attribute. -/
theorem within_comparisonCondition (left : Filter) (op : Operator) (right : Filter) (place : Nat) :
    Within (Refused tables [left, right] place)
      (fun c => ∃ l r, left.Denotes tables l ∧ right.Denotes tables r ∧
        (l.Tests c ∧ r.IsConstant ∨ l.IsConstant ∧ r.Tests c))
      (comparisonCondition tables left op right place) := by
  unfold comparisonCondition
  refine (within_operand? List.mem_cons_self).bind fun l _ denotesLeft => ?_
  refine (within_operand? (List.mem_cons_of_mem _ List.mem_cons_self)).bind
    fun r _ denotesRight => ?_
  exact Condition.within_ofComparison.mapError (fun _ unfit => .order unfit)
    fun _ tests => ⟨l, r, denotesLeft, denotesRight, tests⟩

/-- **A flag is tested on its own.** -/
theorem within_attributeCondition (p : AttributePath) :
    Within (Refused tables [.attribute p] p.offset)
      (fun c => ∃ operand, (Filter.attribute p).Denotes tables operand ∧ operand.Tests c)
      (attributeCondition tables p) := by
  unfold attributeCondition
  refine (within_operand? (f := .attribute p) List.mem_cons_self).bind fun operand _ denotes => ?_
  split
  · exact ⟨_, denotes, .flag _ _ _ (Condition.wellTyped_equation _ true)⟩
  · exact .order rfl

/-! ## Leaves that pass -/

/-- **A condition that tests an operand** of a filter. -/
def TestsOperand (tables : Dictionary) (c : Condition) : Prop :=
  ∃ (f : Filter) (operand : Operand), f.Denotes tables operand ∧ operand.Tests c

variable {c : Condition} {left right : Filter} {op : Operator} {function : Function}
  {path : AttributePath}

theorem TestsSubject.testsOperand {subject other : Filter}
    (h : subject.TestsSubject tables other c) : TestsOperand tables c := by
  obtain ⟨_, _, _, denotes, tests, _⟩ := h
  exact ⟨_, _, denotes, tests⟩

theorem testsOperand_callCondition
    (found : callCondition tables function place operands = .ok c) : TestsOperand tables c := by
  obtain ⟨_, _, _, tests | tests⟩ := (within_callCondition ..).of_ok found
  · exact tests.testsOperand
  · exact tests.testsOperand

theorem testsOperand_comparisonCondition
    (found : comparisonCondition tables left op right place = .ok c) : TestsOperand tables c := by
  obtain ⟨_, _, first, second, ⟨tests, _⟩ | ⟨_, tests⟩⟩ :=
    (within_comparisonCondition ..).of_ok found
  · exact ⟨_, _, first, tests⟩
  · exact ⟨_, _, second, tests⟩

theorem testsOperand_attributeCondition (found : attributeCondition tables path = .ok c) :
    TestsOperand tables c := by
  obtain ⟨_, denotes, tests⟩ := (within_attributeCondition path).of_ok found
  exact ⟨_, _, denotes, tests⟩

theorem combine_eq_ok {op : Connective} {parts : List Condition} :
    combine op parts = .ok c ↔ op = .and ∧ c = .all parts ∨ op = .or ∧ c = .any parts ∨
      op = .not ∧ ∃ part, parts = [part] ∧ c = .negation part := by
  unfold combine
  split <;> simp_all [eq_comm]

end Filter

end RunFilter
