import RunFilter.Proofs.FirstMistake
import RunFilter.Proofs.Paired

/-!
# Shapes

The shape of a filter is the filter with everything blank that a user fills in: texts, numbers, keys,
names of metrics, and contexts. What is left are its nodes, operators, functions, fields and metric
members, the kinds of its constants, and where subscripts and contexts stand.

**The law** (`sameShape_condition`): a filter passes the check if its shape does, and the shape of
its condition is that of the shape's condition. So filters of one shape pass alike, with conditions
of one shape (`sameShape_of_shape`). Comparisons with the first step are left out: the check decides
them, and how it decides depends on the number.

Each function of the check is compared with itself on the shape of its input. Two filters meet in
their common shape, so no proof splits cases on two trees.
-/

set_option autoImplicit false

namespace RunFilter

/-! ## Shapes of filters -/

/-- **A constant of the same kind.** Truth values and `None` are not blank. -/
def Value.shape : Value → Value
  | .null => .null
  | .bool b => .bool b
  | .int _ => .int 0
  | .float _ => .float ⟨0⟩
  | .text _ => .text ""

namespace AttributePath

/-- **An attribute with blank keys and names.** The member of a metric says what is read of it, and
stays; any other member is a key. -/
def shape (p : AttributePath) : AttributePath :=
  { entity := p.entity
    field := p.field
    subscript := p.subscript.map fun s => ⟨"", s.context.map fun _ => .empty⟩
    member := p.member.map fun member =>
      if p.entity = "run" ∧ p.field = "metrics" then member else ""
    offset := 0 }

/-- The attribute is a first step, of all metrics or of one. -/
def IsFirstStep (p : AttributePath) : Prop :=
  p.entity = "metric" ∧ p.field = "first_step" ∨
    p.entity = "run" ∧ p.field = "metrics" ∧ p.member = some "first_step"

end AttributePath

namespace Filter

mutual
/-- **The shape of a filter.** -/
def shape : Filter → Filter
  | .literal value => .literal value.shape
  | .list values => .list (values.map Value.shape)
  | .attribute path => .attribute path.shape
  | .comparison left op right _ => .comparison left.shape op right.shape 0
  | .boolean op operands => .boolean op (shapes operands)
  | .call function arguments _ => .call function (shapes arguments) 0
/-- The shapes of filters. -/
def shapes : List Filter → List Filter
  | [] => []
  | f :: fs => f.shape :: shapes fs
end

/-- The filter is an attribute that is a first step. -/
def IsFirstStep : Filter → Prop
  | .attribute path => path.IsFirstStep
  | _ => False

/-- The filter compares something with a first step. -/
def ComparesFirstStep : Filter → Prop
  | .comparison left _ right _ => left.IsFirstStep ∨ right.IsFirstStep
  | _ => False

instance (p : AttributePath) : Decidable p.IsFirstStep :=
  inferInstanceAs (Decidable (_ ∧ _ ∨ _ ∧ _ ∧ _))

instance : DecidablePred IsFirstStep
  | .attribute path => inferInstanceAs (Decidable path.IsFirstStep)
  | .literal _ | .list _ | .comparison .. | .boolean .. | .call .. => isFalse id

instance : DecidablePred ComparesFirstStep
  | .comparison left _ right _ => inferInstanceAs (Decidable (left.IsFirstStep ∨ right.IsFirstStep))
  | .literal _ | .list _ | .attribute _ | .boolean .. | .call .. => isFalse id

end Filter

/-! ## Shapes of conditions -/

/-- A join of the same table for a blank key. -/
def Origin.shape : Origin → Origin
  | .table name => .table name
  | .series runs _ _ => .series runs "" .empty
  | .keyed runs store _ => .keyed runs store ""

/-- A reference to a join for a blank key. -/
def Reference.shape (ref : Reference) : Reference := ⟨ref.entity, ref.origin.shape⟩

/-- The part of a document is blank. -/
def Part.shape : Part → Part
  | .column name => .column name
  | .duration => .duration
  | .document _ => .document []

/-- An operand with blank keys and constants. The value of a flag is not the user's. -/
def Operand.shape : Operand → Operand
  | .column ref part => .column ref.shape part.shape
  | .flag ref name value => .flag ref.shape name value
  | .step ref => .step ref.shape
  | .constant value => .constant value.shape
  | .list values => .list (values.map Value.shape)

/-- The operand is a first step. -/
def Operand.isStep : Operand → Bool
  | .step _ => true
  | _ => false

/-- A test of the same kind for a blank value. -/
def Test.shape : Test → Test
  | .compare op value => .compare op value.shape
  | .like _ negated => .like "" negated
  | .among values negated => .among (values.map Value.shape) negated
  | .matches _ negated => .matches "" negated

namespace Condition

mutual
/-- **The shape of a condition.** -/
def shape : Condition → Condition
  | .test ref part asked => .test ref.shape part.shape asked.shape
  | .decided ref holds => .decided ref.shape holds
  | .all parts => .all (shapes parts)
  | .any parts => .any (shapes parts)
  | .negation part => .negation part.shape
/-- The shapes of conditions. -/
def shapes : List Condition → List Condition
  | [] => []
  | c :: cs => c.shape :: shapes cs
end

end Condition

@[simp] theorem Value.shape_shape (v : Value) : v.shape.shape = v.shape := by
  cases v <;> rfl

@[simp] theorem Origin.shape_shape (origin : Origin) : origin.shape.shape = origin.shape := by
  cases origin <;> rfl

@[simp] theorem Reference.shape_shape (ref : Reference) : ref.shape.shape = ref.shape := by
  simp [shape]

@[simp] theorem Part.shape_shape (part : Part) : part.shape.shape = part.shape := by
  cases part <;> rfl

@[simp] theorem Operand.isStep_shape (operand : Operand) : operand.shape.isStep = operand.isStep := by
  cases operand <;> rfl

/-! ## Checks with one outcome -/

/-- **Two checks that both fail, or both give a result**, with results of one shape. -/
def SameShape {ε α : Type} (shape : α → α) : Except ε α → Except ε α → Prop :=
  Paired anyMistakes fun a b => shape a = shape b

namespace SameShape

variable {ε α : Type} {shape : α → α} {x y z : Except ε α}

theorem ok {a b : α} (h : shape a = shape b) : SameShape shape (.ok a : Except ε α) (.ok b) :=
  Paired.ok h

theorem error {e e' : ε} : SameShape shape (.error e) (.error e') := Paired.error trivial

theorem symm (h : SameShape shape x y) : SameShape shape y x := by
  cases h with
  | ok h => exact ok h.symm
  | error h => exact error

theorem trans (h : SameShape shape x y) (h' : SameShape shape y z) : SameShape shape x z := by
  cases h with
  | ok h =>
    cases h' with
    | ok h' => exact ok (h.trans h')
  | error h =>
    cases h' with
    | error h' => exact error

theorem mapError {φ : Type} {f g : ε → φ} (h : SameShape shape x y) :
    SameShape shape (x.mapError f) (y.mapError g) :=
  Paired.mapError h fun _ => trivial

end SameShape

/-! ## Attributes -/

namespace AttributePath

variable {tables : Dictionary} {p : AttributePath}

theorem paired_plain (p : AttributePath) :
    Paired anyMistakes (fun _ _ => True) p.plain p.shape.plain := by
  cases subscript : p.subscript <;> cases member : p.member <;>
    simp only [plain, shape, subscript, member, Option.map_some, Option.map_none,
      Option.isSome_some, Option.isSome_none, if_true, Bool.false_eq_true, if_false] <;>
    first | exact .ok trivial | exact .error trivial

theorem paired_key (p : AttributePath) :
    Paired anyMistakes (fun _ _ => True) p.key p.shape.key := by
  unfold key shape
  rcases p.subscript with _ | ⟨name, _ | context⟩ <;> rcases p.member with _ | member <;>
    first | exact .ok trivial | exact .error trivial

theorem sameShape_series (metrics : p.entity = "run" ∧ p.field = "metrics") (runs : String) :
    SameShape Operand.shape (p.series runs) (p.shape.series runs) := by
  have member : p.shape.member = p.member := by simp [shape, metrics]
  unfold series
  rw [member]
  cases subscript : p.subscript with
  | none =>
    simp only [shape, subscript, Option.map_none]
    exact .error
  | some s =>
    simp only [shape, subscript, Option.map_some]
    split
    · exact .error
    · exact .ok rfl
    · exact .ok rfl

/-- The attributes of two kinds have one name each. -/
theorem named_of_kind {entity : Entity} {entry : Attribute} (known : p.entity = entity.name)
    (listed : entity.attribute? p.field = some entry) :
    (entry.kind = .metricSeries → p.entity = "run" ∧ p.field = "metrics") ∧
      (entry.kind = .firstStep → p.entity = "metric" ∧ p.field = "first_step") := by
  have named := Entity.named_of_attribute? listed
  constructor <;> intro kind <;> rw [kind] at named <;> obtain ⟨rfl, field⟩ := named
  · exact ⟨known, field⟩
  · exact ⟨known, field⟩

theorem sameShape_operandOf {entity : Entity} {table : String} {kind : AttributeKind}
    (metrics : kind = .metricSeries → p.entity = "run" ∧ p.field = "metrics") :
    SameShape Operand.shape (p.operandOf tables entity table kind)
      (p.shape.operandOf tables entity table kind) := by
  cases kind with
  | metricSeries => exact sameShape_series (metrics rfl) table
  | column | flag | duration | firstStep => exact p.paired_plain.bind fun _ => .ok rfl
  | keyed => exact p.paired_key.bind fun _ => .ok rfl
  | experimentName =>
    refine p.paired_plain.bind fun _ => ?_
    split
    · exact .error trivial
    · exact .ok rfl
  | context =>
    refine p.paired_key.bind fun _ => ?_
    split
    · exact .error trivial
    · exact .ok rfl

/-- **An attribute is found as its shape is.** -/
theorem sameShape_operand (tables : Dictionary) (p : AttributePath) :
    SameShape Operand.shape (p.operand tables) (p.shape.operand tables) := by
  have entity : p.shape.entity = p.entity := rfl
  have field : p.shape.field = p.field := rfl
  unfold operand
  rw [entity, field]
  split
  · exact .error
  next known =>
    split
    · exact .error
    · split
      · exact .error
      next listed =>
        exact sameShape_operandOf (named_of_kind (Entity.ofName?_eq_some.mp known) listed).1

theorem member_of_series {runs : String} {operand : Operand} (h : p.series runs = .ok operand)
    (step : operand.isStep = true) : p.member = some "first_step" := by
  obtain ⟨_, _, column, sampled, rfl⟩ := series_eq_ok.mp h
  cases column with
  | some column => cases step
  | none =>
    obtain ⟨member, behind, listed⟩ := sampled.behind
    obtain rfl : member = "first_step" := by simpa [seriesColumns] using listed
    exact behind

theorem step_of_operandOf {entity : Entity} {table : String} {kind : AttributeKind}
    {operand : Operand} (h : p.operandOf tables entity table kind = .ok operand)
    (step : operand.isStep = true) :
    kind = .firstStep ∨ kind = .metricSeries ∧ p.member = some "first_step" := by
  cases kind with
  | firstStep => exact .inl rfl
  | metricSeries => exact .inr ⟨rfl, member_of_series h step⟩
  | column | flag | duration | keyed =>
    obtain ⟨_, _, h⟩ := bind_eq_ok.mp h
    cases h
    cases step
  | experimentName | context =>
    obtain ⟨_, _, h⟩ := bind_eq_ok.mp h
    split at h <;> cases h
    cases step

/-- **Only first steps are found without a column.** -/
theorem isFirstStep_of_operand {operand : Operand} (h : p.operand tables = .ok operand)
    (step : operand.isStep = true) : p.IsFirstStep := by
  obtain ⟨_, _, _, known, _, listed, h⟩ := operand_eq_ok.mp h
  obtain ⟨series, first⟩ := named_of_kind known listed
  rcases step_of_operandOf h step with kind | ⟨kind, member⟩
  · exact .inl (first kind)
  · obtain ⟨entity, field⟩ := series kind
    exact .inr ⟨entity, field, member⟩

end AttributePath

/-! ## Leaves -/

namespace Condition

variable {ref ref' : Reference} {part part' : Part} {op : Operator}

/-- Tests of attributes of one shape for values of one shape. -/
theorem shape_test {asked asked' : Test} (h : ref.shape = ref'.shape)
    (h' : part.shape = part'.shape) (same : asked.shape = asked'.shape) :
    (Condition.test ref part asked).shape = (Condition.test ref' part' asked').shape := by
  simp [shape, h, h', same]

theorem sameShape_ofFlag (ref : Reference) (column value : String) (op : Operator)
    (expected : Bool) : SameShape shape (ofFlag ref column value op expected)
      (ofFlag ref.shape column value op expected) := by
  cases op <;> first | exact .ok (by simp [shape]) | exact .error

theorem sameShape_ofColumn (ref : Reference) (part : Part) (op : Operator) (value : Value) :
    SameShape shape (ofColumn ref part op value)
      (ofColumn ref.shape part.shape op value.shape) := by
  cases op <;> cases value <;>
    first | exact .ok (by simp [shape, Test.shape]) | exact .error

theorem sameShape_ofPart (value : Value) (op : Operator) (ref : Reference) (part : Part) :
    SameShape shape (ofPart value op ref part)
      (ofPart value.shape op ref.shape part.shape) := by
  cases op with
  | among | notAmong =>
    cases value <;> first | exact .ok (by simp [shape, Test.shape]) | exact .error
  | equal | notEqual | less | greater | lessEqual | greaterEqual =>
    simp only [ofPart, ofSwapped, Operator.swapped]
    apply sameShape_ofColumn

theorem sameShape_ofList (ref : Reference) (part : Part) (op : Operator) (values : List Value) :
    SameShape shape (ofList ref part op values)
      (ofList ref.shape part.shape op (values.map Value.shape)) := by
  cases op <;> first | exact .ok (by simp [shape, Test.shape]) | exact .error

/-- **A comparison passes as the comparison of the shapes does**, if no first step is compared. -/
theorem sameShape_ofComparison {left right : Operand} (op : Operator)
    (free : left.isStep = false ∧ right.isStep = false) :
    SameShape shape (ofComparison left op right) (ofComparison left.shape op right.shape) := by
  obtain ⟨free, free'⟩ := free
  cases left with
  | step => cases free
  | column ref part =>
    cases right with
    | step => cases free'
    | constant value => apply sameShape_ofColumn
    | list values => apply sameShape_ofList
    | column | flag => exact .error
  | flag ref name value =>
    cases right with
    | step => cases free'
    | constant expected =>
      cases expected with
      | bool expected => apply sameShape_ofFlag
      | null | int | float | text => exact .error
    | column | list | flag => exact .error
  | constant value =>
    cases right with
    | step => cases free'
    | flag ref name text =>
      cases value with
      | bool expected => apply sameShape_ofFlag
      | null | int | float | text => exact .error
    | column ref part =>
      -- Whether the constant is a truth value is asked before the operand on the right is seen.
      have part := sameShape_ofPart value op ref part
      cases value <;> exact part
    | constant | list => cases value <;> exact .error
  | list values =>
    cases right with
    | step => cases free'
    | column | flag | constant | list => exact .error

/-- Comparisons of operands of one shape pass alike. -/
theorem sameShape_ofComparison_of_eq {left left' right right' : Operand} (op : Operator)
    (h : left.shape = left'.shape) (h' : right.shape = right'.shape)
    (free : left.isStep = false ∧ right.isStep = false) :
    SameShape shape (ofComparison left op right) (ofComparison left' op right') := by
  have free' : left'.isStep = false ∧ right'.isStep = false := by
    rwa [← left'.isStep_shape, ← right'.isStep_shape, ← h, ← h', left.isStep_shape,
      right.isStep_shape]
  refine (sameShape_ofComparison op free).trans ?_
  rw [h, h']
  exact (sameShape_ofComparison op free').symm

theorem shapes_eq_map (cs : List Condition) : shapes cs = cs.map shape := by
  induction cs with
  | nil => rfl
  | cons c cs ih => rw [shapes, ih, List.map_cons]

end Condition

namespace Filter

variable {tables : Dictionary} {offset : Nat}

/-! ## Operands -/

theorem sameShape_operand? (f : Filter) :
    SameShape Operand.shape (f.operand? tables offset) (f.shape.operand? tables 0) := by
  cases f with
  | literal value => exact .ok (by simp [Operand.shape])
  | list values => exact .ok (by simp [Operand.shape, Function.comp_def])
  | «attribute» path => exact (path.sameShape_operand tables).mapError
  | comparison | boolean | call => exact .error

theorem isFirstStep_of_operand? {f : Filter} {operand : Operand}
    (h : f.operand? tables offset = .ok operand) (step : operand.isStep = true) :
    f.IsFirstStep := by
  cases f with
  | literal | list =>
    cases h
    cases step
  | comparison | boolean | call => cases h
  | «attribute» path => exact AttributePath.isFirstStep_of_operand (mapError_eq_ok.mp h) step

theorem text?_shape (f : Filter) : f.shape.text? = f.text?.map fun _ => "" := by
  cases f with
  | literal value => cases value <;> rfl
  | list | «attribute» | comparison | boolean | call => rfl

/-! ## Calls, comparisons and flags -/

theorem paired_subject_shape (function : Function) (f : Filter) :
    Paired anyMistakes (fun a b => a.1.shape = b.1.shape ∧ a.2.shape = b.2.shape)
      (f.subject tables function offset) (f.shape.subject tables function 0) := by
  refine (sameShape_operand? f).bind fun {operand operand'} h => ?_
  cases operand <;> cases operand' <;> simp only [Operand.shape, reduceCtorEq] at h <;>
    first | exact .error trivial | exact .ok (by simpa using h)

theorem sameShape_affixCondition (function : Function) (receiver affix : Filter)
    (pattern pattern' : String → String) :
    SameShape Condition.shape
      (affixCondition tables function offset receiver affix pattern)
      (affixCondition tables function 0 receiver.shape affix.shape pattern') := by
  refine (paired_subject_shape function receiver).bind fun {a b} h => ?_
  rw [text?_shape]
  cases affix.text? with
  | none => exact .error trivial
  | some s => exact .ok (Condition.shape_test h.1 h.2 rfl)

theorem sameShape_patternCondition (function : Function) (source subject : Filter)
    (pattern pattern' : String → String) :
    SameShape Condition.shape
      (patternCondition tables function offset source subject pattern)
      (patternCondition tables function 0 source.shape subject.shape pattern') := by
  unfold patternCondition
  rw [text?_shape]
  cases source.text? with
  | none => exact .error
  | some s =>
    exact (paired_subject_shape function subject).bind fun h =>
      .ok (Condition.shape_test h.1 h.2 rfl)

theorem sameShape_callCondition (function : Function) (arguments : List Filter) :
    SameShape Condition.shape (callCondition tables function offset arguments)
      (callCondition tables function 0 (shapes arguments)) := by
  match arguments with
  | [] | [_] | _ :: _ :: _ :: _ => exact .error
  | [first, second] =>
    cases function with
    | startsWith | endsWith => apply sameShape_affixCondition
    | patternAtStart | patternAnywhere => apply sameShape_patternCondition

theorem sameShape_comparisonCondition {left right : Filter} (op : Operator)
    (free : ¬ left.IsFirstStep ∧ ¬ right.IsFirstStep) :
    SameShape Condition.shape (comparisonCondition tables left op right offset)
      (comparisonCondition tables left.shape op right.shape 0) := by
  have quiet : ∀ {f : Filter}, ¬ f.IsFirstStep → ∀ operand,
      f.operand? tables offset = .ok operand → operand.isStep = false :=
    fun free operand found => Bool.eq_false_iff.mpr fun step =>
      free (isFirstStep_of_operand? found step)
  refine ((sameShape_operand? left).known (quiet free.1)).bind fun {l l'} h => ?_
  refine ((sameShape_operand? right).known (quiet free.2)).bind fun {r r'} h' => ?_
  exact (Condition.sameShape_ofComparison_of_eq op h.2 h'.2 ⟨h.1, h'.1⟩).mapError

theorem sameShape_attributeCondition (path : AttributePath) :
    SameShape Condition.shape (attributeCondition tables path)
      (attributeCondition tables path.shape) := by
  refine (path.sameShape_operand tables).mapError.bind fun {operand operand'} h => ?_
  cases operand <;> cases operand' <;> simp only [Operand.shape, reduceCtorEq] at h
  case flag.flag =>
    injection h with ref name value
    exact .ok (Condition.shape_test ref (by rw [name]) (by rw [value]))
  all_goals exact .error trivial

theorem sameShape_combine (op : Connective) {cs cs' : List Condition}
    (h : Condition.shapes cs = Condition.shapes cs') :
    SameShape Condition.shape (combine op cs) (combine op cs') := by
  cases op with
  | and | or => exact .ok (by simp [Condition.shape, h])
  | not =>
    rw [Condition.shapes_eq_map, Condition.shapes_eq_map] at h
    match cs, cs' with
    | [c], [c'] => exact .ok (by simpa [Condition.shape] using h)
    | [], [] | _ :: _ :: _, _ :: _ :: _ => exact .error
    | [], _ :: _ | _ :: _, [] | [_], _ :: _ :: _ | _ :: _ :: _, [_] => simp at h

/-! ## Filters -/

mutual
/-- **The law.** A filter passes the check if its shape does, with a condition of the same shape. -/
theorem sameShape_condition : ∀ (f : Filter), (∀ leaf ∈ f.leaves, ¬ leaf.ComparesFirstStep) →
    SameShape Condition.shape (f.condition tables) (f.shape.condition tables)
  | .boolean op operands, free =>
    (sameShape_conditions operands free).bind fun h => sameShape_combine op h
  | .comparison left op right offset, free =>
    sameShape_comparisonCondition op
      (not_or.mp (free (.comparison left op right offset) List.mem_cons_self))
  | .call function arguments _, _ => sameShape_callCondition function arguments
  | .attribute path, _ => sameShape_attributeCondition path
  | .literal _, _ | .list _, _ => .error
theorem sameShape_conditions : ∀ (fs : List Filter),
    (∀ leaf ∈ leavesAll fs, ¬ leaf.ComparesFirstStep) →
    Paired anyMistakes (fun cs cs' => Condition.shapes cs = Condition.shapes cs')
      (conditions tables fs) (conditions tables (shapes fs))
  | [], _ => .ok rfl
  | f :: fs, free => by
    refine (sameShape_condition f fun leaf mem =>
      free leaf (List.mem_append_left _ mem)).bind fun {c c'} h => ?_
    refine (sameShape_conditions fs fun leaf mem =>
      free leaf (List.mem_append_right _ mem)).bind fun {cs cs'} h' => ?_
    exact .ok (by simp [Condition.shapes, h, h'])
end

end Filter

/-! ## Filters of one shape -/

theorem AttributePath.isFirstStep_shape (p : AttributePath) :
    p.shape.IsFirstStep ↔ p.IsFirstStep := by
  unfold IsFirstStep shape
  by_cases metrics : p.entity = "run" ∧ p.field = "metrics"
  · simp [metrics]
  · have elsewhere : ∀ m : Option String,
        ¬ (p.entity = "run" ∧ p.field = "metrics" ∧ m = some "first_step") :=
      fun m h => metrics ⟨h.1, h.2.1⟩
    simp only [elsewhere]

namespace Filter

theorem isFirstStep_shape (f : Filter) : f.shape.IsFirstStep ↔ f.IsFirstStep := by
  cases f with
  | «attribute» path => exact path.isFirstStep_shape
  | literal | list | comparison | boolean | call => exact Iff.rfl

theorem comparesFirstStep_shape (f : Filter) :
    f.shape.ComparesFirstStep ↔ f.ComparesFirstStep := by
  cases f with
  | comparison left op right offset =>
    exact or_congr left.isFirstStep_shape right.isFirstStep_shape
  | literal | list | «attribute» | boolean | call => exact Iff.rfl

mutual
theorem leaves_shape : ∀ f : Filter, f.shape.leaves = f.leaves.map shape
  | .boolean _ operands => leavesAll_shapes operands
  | .literal _ | .list _ | .attribute _ | .comparison .. | .call .. => rfl
theorem leavesAll_shapes : ∀ fs : List Filter,
    leavesAll (shapes fs) = (leavesAll fs).map shape
  | [] => rfl
  | f :: fs => by
    simp only [shapes, leavesAll, List.map_append, leaves_shape f, leavesAll_shapes fs]
end

/-- Filters of one shape compare first steps at the same places. -/
theorem free_of_shape {f g : Filter} (same : f.shape = g.shape)
    (free : ∀ leaf ∈ f.leaves, ¬ leaf.ComparesFirstStep) :
    ∀ leaf ∈ g.leaves, ¬ leaf.ComparesFirstStep := by
  intro leaf mem compares
  have mem : leaf.shape ∈ f.leaves.map shape := by
    rw [← leaves_shape, same, leaves_shape]
    exact List.mem_map_of_mem mem
  obtain ⟨leaf', mem', eq⟩ := List.mem_map.mp mem
  refine free leaf' mem' ((comparesFirstStep_shape leaf').mp ?_)
  rw [eq]
  exact (comparesFirstStep_shape leaf).mpr compares

/-- **Filters of one shape are checked alike.** -/
theorem sameShape_of_shape {f g : Filter} (same : f.shape = g.shape)
    (free : ∀ leaf ∈ f.leaves, ¬ leaf.ComparesFirstStep) (tables : Dictionary) :
    SameShape Condition.shape (f.condition tables) (g.condition tables) := by
  refine (sameShape_condition f free).trans ?_
  rw [same]
  exact (sameShape_condition g (free_of_shape same free)).symm

end Filter

/-! ## Attributes of a shape -/

namespace Condition

mutual
theorem references_shape : ∀ c : Condition, c.shape.references = c.references.map Reference.shape
  | .test _ _ _ | .decided _ _ => rfl
  | .all parts | .any parts => references_shapes parts
  | .negation part => references_shape part
theorem references_shapes : ∀ cs : List Condition,
    referencesAll (shapes cs) = (referencesAll cs).map Reference.shape
  | [] => rfl
  | c :: cs => by
    simp only [shapes, referencesAll, List.map_append, references_shape c, references_shapes cs]
end

end Condition

end RunFilter
