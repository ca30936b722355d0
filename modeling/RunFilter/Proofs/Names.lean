import RunFilter.Proofs.Catalogue
import RunFilter.Proofs.Checks
import RunFilter.Proofs.Parsing.Width
import RunFilter.Resolution

/-!
# Names in conditions

The names that a checked filter brings into a statement are identifiers: the table names because the
settings are checked for that (`Dictionary.Plain`), the others because they are the library's own.
With the width of filters this makes conditions well formed. What a leaf names is known from the
operand that it tests, so the functions of the check are not looked at again.
-/

set_option autoImplicit false

namespace RunFilter

/-! ## Attributes -/

/-- The names that an origin brings into a statement are identifiers. -/
def Origin.Plain : Origin → Prop
  | .table name => Text.isIdentifier name = true
  | .series runs _ _ | .keyed runs _ _ => Text.isIdentifier runs = true

/-- The column that a part names is an identifier. -/
def Part.Plain : Part → Prop
  | .column name => Text.isIdentifier name = true
  | .duration | .document _ => True

/-- The names in an operand are identifiers. -/
def Operand.Plain : Operand → Prop
  | .column ref part => ref.origin.Plain ∧ part.Plain
  | .flag ref name _ => ref.origin.Plain ∧ Text.isIdentifier name = true
  | .step ref => ref.origin.Plain
  | .constant _ | .list _ => True

/-- **The table names are identifiers.** -/
def Dictionary.Plain (tables : Dictionary) : Prop :=
  ∀ entry ∈ tables.entries, Text.isIdentifier entry.2 = true

theorem Dictionary.Plain.get? {tables : Dictionary} (plain : tables.Plain) {key name : String}
    (h : tables.get? key = some name) : Text.isIdentifier name = true := by
  obtain ⟨before, after, eq, _⟩ := List.lookup_eq_some_iff.mp h
  refine plain (key, name) ?_
  rw [eq]
  exact List.mem_append_right _ List.mem_cons_self

/-- The column of a kind of attributes is an identifier. -/
def AttributeKind.Plain : AttributeKind → Prop
  | .column name | .flag name _ => Text.isIdentifier name = true
  | .duration | .experimentName | .metricSeries | .keyed _ | .context | .firstStep => True

theorem Entity.plain_of_attribute? {entity : Entity} {field : String} {entry : Attribute}
    (h : entity.attribute? field = some entry) : entry.kind.Plain := by
  have all : ∀ entry ∈ entity.attributes, entry.kind.Plain := by
    cases entity <;>
      simp only [attributes, List.forall_mem_cons, List.not_mem_nil, false_implies, implies_true,
        AttributeKind.Plain, and_true, true_and] <;> decide
  exact all entry (List.mem_of_find?_eq_some h)

namespace AttributePath

variable {tables : Dictionary} {path : AttributePath}

theorem plain_of_mem_seriesColumns {member column : String}
    (h : (member, some column) ∈ seriesColumns) : Text.isIdentifier column = true := by
  have all : ∀ entry ∈ seriesColumns, ∀ column ∈ entry.2, Text.isIdentifier column = true := by
    decide
  exact all _ h column rfl

theorem plain_of_series {runs : String} (h : Text.isIdentifier runs = true) {operand : Operand}
    (found : path.series runs = .ok operand) : operand.Plain := by
  obtain ⟨name, context, column, sampled, rfl⟩ := series_eq_ok.mp found
  cases column with
  | none => exact h
  | some column =>
    obtain ⟨member, _, listed⟩ := sampled.behind
    exact ⟨h, plain_of_mem_seriesColumns listed⟩

/-- **Operands are found with identifiers** if the table names are identifiers. -/
theorem plain_of_operandOf (plain : tables.Plain) {entity : Entity} {table : String}
    (h : Text.isIdentifier table = true) {kind : AttributeKind} (column : kind.Plain)
    {operand : Operand} (found : path.operandOf tables entity table kind = .ok operand) :
    operand.Plain := by
  cases kind with
  | column name =>
    obtain ⟨_, _, found⟩ := bind_eq_ok.mp found
    cases found
    exact ⟨h, column⟩
  | flag name value =>
    obtain ⟨_, _, found⟩ := bind_eq_ok.mp found
    cases found
    exact ⟨h, column⟩
  | duration =>
    obtain ⟨_, _, found⟩ := bind_eq_ok.mp found
    cases found
    exact ⟨h, trivial⟩
  | experimentName =>
    obtain ⟨_, _, found⟩ := bind_eq_ok.mp found
    split at found
    · cases found
    next experiments stored =>
      cases found
      have name : Text.isIdentifier "name" = true := by decide
      exact ⟨plain.get? stored, name⟩
  | metricSeries => exact plain_of_series h found
  | keyed store =>
    obtain ⟨_, _, found⟩ := bind_eq_ok.mp found
    cases found
    have value : Text.isIdentifier "value" = true := by decide
    exact ⟨h, value⟩
  | context =>
    obtain ⟨_, _, found⟩ := bind_eq_ok.mp found
    split at found
    · cases found
    next contexts stored =>
      cases found
      exact ⟨plain.get? stored, trivial⟩
  | firstStep =>
    obtain ⟨_, _, found⟩ := bind_eq_ok.mp found
    cases found
    exact h

theorem plain_of_operand (plain : tables.Plain) {operand : Operand}
    (found : path.operand tables = .ok operand) : operand.Plain := by
  obtain ⟨_, _, _, _, stored, listed, found⟩ := operand_eq_ok.mp found
  exact plain_of_operandOf plain (plain.get? stored) (Entity.plain_of_attribute? listed) found

end AttributePath

/-! ## Conditions -/

namespace Condition

mutual
/-- **A condition whose names are identifiers**, and whose conjunctions and disjunctions have two
parts at least. -/
def WellFormed : Condition → Prop
  | .test ref part _ => ref.origin.Plain ∧ part.Plain
  | .decided ref _ => ref.origin.Plain
  | .all parts | .any parts => 2 ≤ parts.length ∧ WellFormedAll parts
  | .negation part => part.WellFormed
/-- All conditions are well formed. -/
def WellFormedAll : List Condition → Prop
  | [] => True
  | c :: cs => c.WellFormed ∧ WellFormedAll cs
end

theorem wellFormed_of_tests {operand : Operand} {c : Condition} (plain : operand.Plain)
    (h : operand.Tests c) : c.WellFormed := by
  cases h with
  | column | flag | step => exact plain

end Condition

namespace Filter

variable {tables : Dictionary}

theorem plain_of_denotes (plain : tables.Plain) {f : Filter} {operand : Operand}
    (h : f.Denotes tables operand) : operand.Plain := by
  cases h with
  | literal | list => trivial
  | path found => exact AttributePath.plain_of_operand plain found

theorem wellFormed_of_testsOperand (plain : tables.Plain) {c : Condition}
    (h : TestsOperand tables c) : c.WellFormed := by
  obtain ⟨_, _, denotes, tests⟩ := h
  exact Condition.wellFormed_of_tests (plain_of_denotes plain denotes) tests

mutual
/-- **The conditions of wide filters are well formed.** -/
theorem wellFormed_condition (plain : tables.Plain) : ∀ {f : Filter} {c : Condition}, f.Wide →
    f.condition tables = .ok c → c.WellFormed
  | .boolean op operands, c, wide, found => by
    obtain ⟨parts, answer, found⟩ := bind_eq_ok.mp found
    obtain ⟨rfl, rfl⟩ | ⟨rfl, rfl⟩ | ⟨rfl, part, rfl, rfl⟩ := combine_eq_ok.mp found
    · obtain ⟨parts_ok, same⟩ := wellFormedAll_conditions plain wide.2 answer
      exact ⟨same ▸ wide.1, parts_ok⟩
    · obtain ⟨parts_ok, same⟩ := wellFormedAll_conditions plain wide.2 answer
      exact ⟨same ▸ wide.1, parts_ok⟩
    · exact (wellFormedAll_conditions plain wide answer).1.1
  | .comparison .., c, _, found =>
    wellFormed_of_testsOperand plain (testsOperand_comparisonCondition found)
  | .call .., c, _, found => wellFormed_of_testsOperand plain (testsOperand_callCondition found)
  | .attribute _, c, _, found =>
    wellFormed_of_testsOperand plain (testsOperand_attributeCondition found)
  | .literal _, _, _, found | .list _, _, _, found => nomatch found
theorem wellFormedAll_conditions (plain : tables.Plain) : ∀ {fs : List Filter}
    {cs : List Condition}, WideAll fs → conditions tables fs = .ok cs →
    Condition.WellFormedAll cs ∧ fs.length = cs.length
  | [], cs, _, found => by
    cases found
    exact ⟨trivial, rfl⟩
  | f :: fs, cs, wide, found => by
    unfold conditions at found
    obtain ⟨first, answer, found⟩ := bind_eq_ok.mp found
    obtain ⟨rest, answer', found⟩ := bind_eq_ok.mp found
    cases found
    obtain ⟨rest_ok, same⟩ := wellFormedAll_conditions plain wide.2 answer'
    exact ⟨⟨wellFormed_condition plain wide.1 answer, rest_ok⟩, congrArg (· + 1) same⟩
end

end Filter

end RunFilter
