import RunFilter.Proofs.Paired
import RunFilter.Proofs.Parsing.Derivation
import RunFilter.Resolution

/-!
# Conditions and places

The places in a filter are there for mistakes only: a filter and the same filter without places have
one condition, or both have none (`condition_eq_of_bare_eq`).
-/

set_option autoImplicit false

namespace RunFilter

namespace Filter

variable {tables : Dictionary}

/-- An operand without its places is the same operand. -/
theorem paired_operand?_bare : ∀ (f : Filter) (offset offset' : Nat),
    Paired anyMistakes Eq (f.operand? tables offset) (f.bare.operand? tables offset')
  | .literal _, _, _ | .list _, _, _ => .ok rfl
  | .attribute path, _, _ => by
    change Paired anyMistakes Eq ((path.operand tables).mapError _)
      ((path.operand tables).mapError _)
    cases path.operand tables with
    | error fault => exact .error trivial
    | ok operand => exact .ok rfl
  | .comparison .., _, _ | .boolean .., _, _ | .call .., _, _ => .error trivial

theorem text?_bare (f : Filter) : f.bare.text? = f.text? := by
  cases f <;> rfl

theorem paired_subject_bare (function : Function) (f : Filter) (offset offset' : Nat) :
    Paired anyMistakes Eq (f.subject tables function offset)
      (f.bare.subject tables function offset') := by
  refine (paired_operand?_bare f offset offset').bind ?_
  rintro operand _ rfl
  cases operand with
  | column ref part => exact .ok rfl
  | flag | step | constant | list => exact .error trivial

theorem paired_affixCondition_bare (function : Function) (receiver affix : Filter)
    (pattern : String → String) (offset offset' : Nat) :
    Paired anyMistakes Eq (receiver.affixCondition tables function offset affix pattern)
      (receiver.bare.affixCondition tables function offset' affix.bare pattern) := by
  refine (paired_subject_bare function receiver offset offset').bind ?_
  rintro ⟨ref, part⟩ _ rfl
  dsimp only
  rw [text?_bare]
  cases affix.text? with
  | none => exact .error trivial
  | some s => exact .ok rfl

theorem paired_patternCondition_bare (function : Function) (source subject : Filter)
    (pattern : String → String) (offset offset' : Nat) :
    Paired anyMistakes Eq (source.patternCondition tables function offset subject pattern)
      (source.bare.patternCondition tables function offset' subject.bare pattern) := by
  unfold patternCondition
  rw [text?_bare]
  cases source.text? with
  | none => exact .error trivial
  | some s =>
    refine (paired_subject_bare function subject offset offset').bind ?_
    rintro ⟨ref, part⟩ _ rfl
    exact .ok rfl

theorem paired_callCondition_bare (function : Function) (arguments : List Filter)
    (offset offset' : Nat) :
    Paired anyMistakes Eq (callCondition tables function offset arguments)
      (callCondition tables function offset' (bareAll arguments)) := by
  match arguments with
  | [] | [_] | _ :: _ :: _ :: _ => exact .error trivial
  | [first, second] =>
    cases function with
    | startsWith | endsWith => exact paired_affixCondition_bare ..
    | patternAtStart | patternAnywhere => exact paired_patternCondition_bare ..

theorem paired_comparisonCondition_bare (left right : Filter) (op : Operator)
    (offset offset' : Nat) :
    Paired anyMistakes Eq (left.comparisonCondition tables op right offset)
      (left.bare.comparisonCondition tables op right.bare offset') := by
  refine (paired_operand?_bare left offset offset').bind ?_
  rintro l _ rfl
  refine (paired_operand?_bare right offset offset').bind ?_
  rintro r _ rfl
  cases Condition.ofComparison l op r with
  | error fault => exact .error trivial
  | ok c => exact .ok rfl

theorem paired_attributeCondition_bare (path : AttributePath) :
    Paired anyMistakes Eq (attributeCondition tables path)
      (attributeCondition tables { path with offset := 0 }) := by
  refine (paired_operand?_bare (.attribute path) path.offset 0).bind ?_
  rintro operand _ rfl
  cases operand with
  | flag ref column value => exact .ok rfl
  | column | step | constant | list => exact .error trivial

mutual
/-- **A condition does not depend on places.** -/
theorem paired_condition_bare : ∀ f : Filter,
    Paired anyMistakes Eq (f.condition tables) (f.bare.condition tables)
  | .boolean op operands => by
    refine (paired_conditions_bare operands).bind ?_
    rintro parts _ rfl
    cases combine op parts with
    | error e => exact .error trivial
    | ok c => exact .ok rfl
  | .comparison left op right offset => paired_comparisonCondition_bare left right op offset 0
  | .call function arguments offset => paired_callCondition_bare function arguments offset 0
  | .attribute path => paired_attributeCondition_bare path
  | .literal _ | .list _ => .error trivial
theorem paired_conditions_bare : ∀ fs : List Filter,
    Paired anyMistakes Eq (conditions tables fs) (conditions tables (bareAll fs))
  | [] => .ok rfl
  | f :: fs => by
    refine (paired_condition_bare f).bind ?_
    rintro first _ rfl
    refine (paired_conditions_bare fs).bind ?_
    rintro rest _ rfl
    exact .ok rfl
end

/-- **Filters that differ in places only have one condition.** -/
theorem condition_eq_of_bare_eq {f g : Filter} (same : f.bare = g.bare) {c : Condition} :
    f.condition tables = .ok c ↔ g.condition tables = .ok c := by
  have first := @paired_condition_bare tables f
  have second := @paired_condition_bare tables g
  rw [← same] at second
  rw [first.ok_iff c, second.ok_iff c]

end Filter

end RunFilter
