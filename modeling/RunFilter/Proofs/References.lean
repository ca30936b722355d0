import RunFilter.Proofs.Catalogue
import RunFilter.Proofs.Checks
import RunFilter.Proofs.Hoisting

/-!
# The attributes that a filter names

A filter names attributes by paths, a checked filter by references. Each leaf that passes the check
has one attribute: a comparison has one on one side and a constant or a list on the other, a call
has one argument that is an attribute, and a flag is its own. So the references of a checked filter
are, in their order, what the paths of the filter stand for (`references_condition`).
-/

set_option autoImplicit false

namespace RunFilter

/-- The attribute that an operand is, if it is one. -/
def Operand.reference? : Operand → Option Reference
  | .column ref _ | .flag ref _ _ | .step ref => some ref
  | .constant _ | .list _ => none

theorem Operand.IsConstant.reference?_eq_none {operand : Operand} (h : operand.IsConstant) :
    operand.reference? = none := by
  cases h <;> rfl

/-- **The attribute that a path stands for**, if it stands for one. -/
def AttributePath.reference? (tables : Dictionary) (path : AttributePath) : Option Reference :=
  (path.operand tables).toOption.bind Operand.reference?

namespace Filter

mutual
/-- **The attributes that a filter names**, as they are written, from left to right. -/
def paths : Filter → List AttributePath
  | .literal _ | .list _ => []
  | .attribute path => [path]
  | .comparison left _ right _ => left.paths ++ right.paths
  | .boolean _ operands => pathsAll operands
  | .call _ arguments _ => pathsAll arguments
/-- The attributes that filters name, from left to right. -/
def pathsAll : List Filter → List AttributePath
  | [] => []
  | f :: fs => f.paths ++ pathsAll fs
end

theorem paths_subset_pathsAll {f : Filter} {fs : List Filter} (mem : f ∈ fs) :
    f.paths ⊆ pathsAll fs := by
  induction mem with
  | head => exact List.subset_append_left _ _
  | tail _ _ ih => exact List.subset_append_of_subset_right _ ih

end Filter

/-! ## Leaves -/

namespace Condition

/-- **A leaf that tests an attribute.** -/
inductive LeafAt (ref : Reference) : Condition → Prop
  | test (part : Part) (asked : Test) : LeafAt ref (.test ref part asked)
  | decided (holds : Bool) : LeafAt ref (.decided ref holds)

variable {ref : Reference} {op : Operator} {c : Condition}

theorem LeafAt.references (h : LeafAt ref c) : c.references = [ref] := by
  cases h <;> rfl

theorem leafAt_of_tests {operand : Operand} (h : operand.Tests c) :
    ∃ ref, operand.reference? = some ref ∧ LeafAt ref c := by
  cases h with
  | column ref part typed => exact ⟨ref, rfl, .test part _⟩
  | flag ref column value typed => exact ⟨ref, rfl, .test (.column column) _⟩
  | step ref holds => exact ⟨ref, rfl, .decided holds⟩

/-- **A comparison that passes the check has one attribute**, on its left or on its right. -/
theorem leafAt_ofComparison {left right : Operand} (h : ofComparison left op right = .ok c) :
    ∃ ref, LeafAt ref c ∧
      (left.reference? = some ref ∧ right.reference? = none ∨
        left.reference? = none ∧ right.reference? = some ref) := by
  obtain ⟨tests, constant⟩ | ⟨constant, tests⟩ := within_ofComparison.of_ok h
  · obtain ⟨ref, own, leaf⟩ := leafAt_of_tests tests
    exact ⟨ref, leaf, .inl ⟨own, constant.reference?_eq_none⟩⟩
  · obtain ⟨ref, own, leaf⟩ := leafAt_of_tests tests
    exact ⟨ref, leaf, .inr ⟨constant.reference?_eq_none, own⟩⟩

end Condition

/-! ## Operands -/

theorem mapError_eq_ok {ε ε' α : Type} {f : ε → ε'} {x : Except ε α} {a : α} :
    x.mapError f = .ok a ↔ x = .ok a := by
  cases x with
  | error e => simp [error_mapError]
  | ok b => simp [ok_mapError]

namespace AttributePath

variable {tables : Dictionary} {path : AttributePath} {operand : Operand}

theorem isSome_reference?_of_series {runs : String} (h : path.series runs = .ok operand) :
    operand.reference?.isSome := by
  obtain ⟨_, _, column, _, rfl⟩ := series_eq_ok.mp h
  cases column <;> rfl

theorem isSome_reference?_of_operandOf {entity : Entity} {table : String} {kind : AttributeKind}
    (h : path.operandOf tables entity table kind = .ok operand) : operand.reference?.isSome := by
  cases kind with
  | metricSeries => exact isSome_reference?_of_series h
  | column | flag | duration | keyed | firstStep =>
    obtain ⟨_, _, h⟩ := bind_eq_ok.mp h
    cases h
    rfl
  | experimentName | context =>
    obtain ⟨_, _, h⟩ := bind_eq_ok.mp h
    split at h <;> cases h
    rfl

/-- The operand of a path is an attribute. -/
theorem isSome_reference?_of_operand (h : path.operand tables = .ok operand) :
    operand.reference?.isSome := by
  obtain ⟨_, _, _, _, _, _, h⟩ := operand_eq_ok.mp h
  exact isSome_reference?_of_operandOf h

end AttributePath

namespace Filter

variable {tables : Dictionary} {offset : Nat} {f : Filter} {c : Condition}

/-- **An operand has the attribute that its filter names**, if the filter names one. -/
theorem paths_of_denotes {operand : Operand} (h : f.Denotes tables operand) :
    f.paths.map (·.reference? tables) = operand.reference?.toList.map some := by
  cases h with
  | literal | list => rfl
  | path found =>
    obtain ⟨ref, named⟩ :=
      Option.isSome_iff_exists.mp (AttributePath.isSome_reference?_of_operand found)
    simp [paths, AttributePath.reference?, found, Except.toOption, named]

theorem paths_of_text? {s : String} (h : f.text? = some s) : f.paths = [] := by
  unfold text? at h
  split at h
  · rfl
  · cases h

theorem subject_eq_ok {function : Function} {ref : Reference} {part : Part} :
    f.subject tables function offset = .ok (ref, part) ↔
      f.operand? tables offset = .ok (.column ref part) := by
  unfold subject
  rw [bind_eq_ok]
  constructor
  · rintro ⟨operand, found, h⟩
    split at h <;> cases h
    exact found
  · intro found
    exact ⟨_, found, rfl⟩

theorem leafAt_of_testsSubject {subject other : Filter}
    (h : subject.TestsSubject tables other c) :
    ∃ ref, Condition.LeafAt ref c ∧ subject.paths.map (·.reference? tables) = [some ref] ∧
      other.paths = [] := by
  obtain ⟨ref, part, s, denotes, tests, text⟩ := h
  obtain ⟨_, own, leaf⟩ := Condition.leafAt_of_tests tests
  cases own
  exact ⟨ref, leaf, paths_of_denotes denotes, paths_of_text? text⟩

/-- **A call that passes the check has one attribute**, which is tested. -/
theorem leafAt_callCondition {function : Function} {arguments : List Filter}
    (h : callCondition tables function offset arguments = .ok c) :
    ∃ ref, Condition.LeafAt ref c ∧
      (pathsAll arguments).map (·.reference? tables) = [some ref] := by
  obtain ⟨first, second, rfl, tests | tests⟩ := (within_callCondition ..).of_ok h
  · obtain ⟨ref, leaf, own, none⟩ := leafAt_of_testsSubject tests
    exact ⟨ref, leaf, by simp [pathsAll, own, none]⟩
  · obtain ⟨ref, leaf, own, none⟩ := leafAt_of_testsSubject tests
    exact ⟨ref, leaf, by simp [pathsAll, own, none]⟩

theorem references_callCondition {function : Function} {arguments : List Filter}
    (h : callCondition tables function offset arguments = .ok c) :
    (pathsAll arguments).map (·.reference? tables) = c.references.map some := by
  obtain ⟨ref, leaf, own⟩ := leafAt_callCondition h
  rw [own, leaf.references, List.map_singleton]

theorem references_comparisonCondition {left right : Filter} {op : Operator}
    (h : comparisonCondition tables left op right offset = .ok c) :
    (left.paths ++ right.paths).map (·.reference? tables) = c.references.map some := by
  obtain ⟨l, r, first, second, tests⟩ := (within_comparisonCondition ..).of_ok h
  rw [List.map_append, paths_of_denotes first, paths_of_denotes second]
  obtain ⟨tests, constant⟩ | ⟨constant, tests⟩ := tests
  · obtain ⟨ref, own, leaf⟩ := Condition.leafAt_of_tests tests
    simp [own, constant.reference?_eq_none, leaf.references]
  · obtain ⟨ref, own, leaf⟩ := Condition.leafAt_of_tests tests
    simp [own, constant.reference?_eq_none, leaf.references]

theorem references_attributeCondition {path : AttributePath}
    (h : attributeCondition tables path = .ok c) :
    [path].map (·.reference? tables) = c.references.map some := by
  obtain ⟨operand, denotes, tests⟩ := (within_attributeCondition path).of_ok h
  obtain ⟨ref, own, leaf⟩ := Condition.leafAt_of_tests tests
  refine (paths_of_denotes denotes).trans ?_
  rw [own, leaf.references]
  rfl

mutual
/-- **The references of a checked filter are what its paths stand for**, in their order. -/
theorem references_condition : ∀ {f : Filter} {c : Condition}, f.condition tables = .ok c →
    f.paths.map (·.reference? tables) = c.references.map some
  | .boolean op operands, c, h => by
    obtain ⟨parts, checked, h⟩ := bind_eq_ok.mp h
    have references := references_conditions checked
    obtain ⟨rfl, rfl⟩ | ⟨rfl, rfl⟩ | ⟨rfl, part, rfl, rfl⟩ := combine_eq_ok.mp h
    · exact references
    · exact references
    · simpa [paths, Condition.references, Condition.referencesAll] using references
  | .comparison _ _ _ _, _, h => references_comparisonCondition h
  | .call _ _ _, _, h => references_callCondition h
  | .attribute _, _, h => references_attributeCondition h
  | .literal _, _, h | .list _, _, h => nomatch h
theorem references_conditions : ∀ {fs : List Filter} {cs : List Condition},
    conditions tables fs = .ok cs →
    (pathsAll fs).map (·.reference? tables) = (Condition.referencesAll cs).map some
  | [], cs, h => by
    cases h
    rfl
  | f :: fs, cs, h => by
    obtain ⟨first, checked, h⟩ := bind_eq_ok.mp h
    obtain ⟨rest, checked', h⟩ := bind_eq_ok.mp h
    cases h
    simp only [pathsAll, Condition.referencesAll, List.map_append, references_condition checked,
      references_conditions checked']
end

end Filter

end RunFilter
