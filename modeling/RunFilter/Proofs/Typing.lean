import RunFilter.Proofs.Joins.Sharing
import RunFilter.Proofs.Sql.Dialects

/-!
# Tests that fit their values

A column is not equal to NULL and not unequal to it, and truth values have no order. A filter that
bound either behind the wrong operator would match nothing and say nothing. The check of a filter
refuses such comparisons, with the operands in either order, and the writer of predicates spells an
equation with NULL as `IS NULL`, also where a negation has turned its operator round.

**The law** (`wellTyped_compile`): the predicates of a compiled query compare columns by one of six
operators, by equations alone where the value is NULL or a truth value, and their connectives have
two parts at least. In the condition that is written, NULL is bound as an element of a list and
nowhere else (`Fragment.BindsNullInLists`).

What the check lets through is known from its bounds (`Operand.Tests`). It is carried over to the
leaf tests of a resolution, and from there to both sides: to the tree of the predicate, and to what
a leaf binds once it is written.
-/

set_option autoImplicit false

namespace RunFilter

/-! ## Conditions -/

namespace Condition

mutual
/-- **A condition whose tests are well typed.** -/
def WellTyped : Condition → Prop
  | .test _ _ asked => asked.WellTyped
  | .decided _ _ => True
  | .all parts | .any parts => WellTypedAll parts
  | .negation part => part.WellTyped
/-- All conditions are well typed. -/
def WellTypedAll : List Condition → Prop
  | [] => True
  | c :: cs => c.WellTyped ∧ WellTypedAll cs
end

theorem wellTyped_of_tests {operand : Operand} {c : Condition} (h : operand.Tests c) :
    c.WellTyped := by
  cases h with
  | column ref part typed => exact typed
  | flag ref column value typed => exact typed
  | step ref holds => trivial

end Condition

namespace Filter

variable {tables : Dictionary} {c : Condition}

theorem wellTyped_of_testsOperand (h : TestsOperand tables c) : c.WellTyped := by
  obtain ⟨_, _, _, tests⟩ := h
  exact Condition.wellTyped_of_tests tests

mutual
/-- **Checked filters are well typed.** -/
theorem wellTyped_condition : ∀ {f : Filter} {c : Condition}, f.condition tables = .ok c →
    c.WellTyped
  | .boolean op operands, c, found => by
    obtain ⟨parts, checked, found⟩ := bind_eq_ok.mp found
    have typed := wellTypedAll_conditions checked
    obtain ⟨rfl, rfl⟩ | ⟨rfl, rfl⟩ | ⟨rfl, part, rfl, rfl⟩ := combine_eq_ok.mp found
    · exact typed
    · exact typed
    · exact typed.1
  | .comparison .., _, found => wellTyped_of_testsOperand (testsOperand_comparisonCondition found)
  | .call .., _, found => wellTyped_of_testsOperand (testsOperand_callCondition found)
  | .attribute _, _, found => wellTyped_of_testsOperand (testsOperand_attributeCondition found)
  | .literal _, _, found | .list _, _, found => nomatch found
theorem wellTypedAll_conditions : ∀ {fs : List Filter} {cs : List Condition},
    conditions tables fs = .ok cs → Condition.WellTypedAll cs
  | [], cs, found => by
    cases found
    trivial
  | f :: fs, cs, found => by
    obtain ⟨first, checked, found⟩ := bind_eq_ok.mp found
    obtain ⟨rest, checked', found⟩ := bind_eq_ok.mp found
    cases found
    exact ⟨wellTyped_condition checked, wellTypedAll_conditions checked'⟩
end

end Filter

/-! ## Leaf tests -/

/-- A leaf test whose operator fits its value. -/
def Sql.LeafTest.WellTyped : Sql.LeafTest → Prop
  | .test _ asked _ => asked.WellTyped
  | .constant _ => True

theorem Predicate.mem_leafTestsAll {t : Sql.LeafTest} {ps : List Predicate} :
    t ∈ leafTestsAll ps ↔ ∃ p ∈ ps, t ∈ p.leafTests false := by
  induction ps with
  | nil => simp [leafTestsAll]
  | cons p ps ih => simp [leafTestsAll, ih]

/-- The tests of a context are equations with texts. -/
theorem Dictionary.wellTyped_tests {context : Dictionary} {aliasName : String} {p : Predicate}
    (mem : p ∈ context.tests aliasName) (inverted : Bool) :
    ∀ t ∈ p.leafTests inverted, t.WellTyped := by
  obtain ⟨entry, _, rfl⟩ := List.mem_map.mp mem
  exact List.forall_mem_singleton.mpr (Condition.wellTyped_equation entry.2 true)

namespace Condition

theorem wellTyped_guarded {table : JoinTable} {origin : Origin} {leaf : Predicate}
    (typed : ∀ inverted, ∀ t ∈ leaf.leafTests inverted, t.WellTyped) (inverted : Bool) :
    ∀ t ∈ (table.guarded origin leaf).leafTests inverted, t.WellTyped := by
  unfold JoinTable.guarded
  split
  · intro t mem
    obtain ⟨p, mem, own⟩ := Predicate.mem_leafTestsAll.mp mem
    rcases List.mem_append.mp mem with mem | mem
    · unfold JoinTable.ownTests at mem
      split at mem
      · exact Dictionary.wellTyped_tests mem false t own
      · cases mem
    · cases List.mem_singleton.mp mem
      exact typed false t own
  · exact typed inverted

mutual
/-- **Well-typed conditions are read as predicates with well-typed leaves.** -/
theorem wellTyped_readOff {table : JoinTable} : ∀ {c : Condition} {bare : Bool}, c.WellTyped →
    ∀ inverted, ∀ t ∈ (c.readOff table bare).leafTests inverted, t.WellTyped
  | .test ref part asked, bare, typed, inverted => by
    have leaf : ∀ inverted, ∀ t ∈ (Predicate.test (part.columnIn (table.tableOf ref.origin))
        asked).leafTests inverted, t.WellTyped :=
      fun inverted => List.forall_mem_singleton.mpr typed
    simp only [readOff]
    split
    · exact leaf inverted
    · exact wellTyped_guarded leaf inverted
  | .decided ref holds, bare, _, inverted => by
    have leaf : ∀ inverted, ∀ t ∈ (Predicate.constant holds).leafTests inverted, t.WellTyped :=
      fun inverted => List.forall_mem_singleton.mpr trivial
    simp only [readOff]
    split
    · exact leaf inverted
    · exact wellTyped_guarded leaf inverted
  | .all parts, bare, typed, _ => @wellTyped_readOffAll table parts bare typed
  | .any parts, _, typed, _ => @wellTyped_readOffAll table parts false typed
  | .negation part, _, typed, inverted => wellTyped_readOff (c := part) typed !inverted
theorem wellTyped_readOffAll {table : JoinTable} : ∀ {cs : List Condition} {bare : Bool},
    WellTypedAll cs → ∀ t ∈ Predicate.leafTestsAll (readOffAll table bare cs), t.WellTyped
  | [], _, _ => fun _ mem => (List.not_mem_nil mem).elim
  | c :: cs, bare, typed => by
    rw [readOffAll, Predicate.leafTestsAll]
    exact List.forall_mem_append.mpr
      ⟨wellTyped_readOff typed.1 false, wellTyped_readOffAll typed.2⟩
end

end Condition

namespace Resolution

theorem wellTyped_leafTests {tables : Dictionary} {filter : Option Filter} {r : Resolution}
    (resolved : ofFilter tables filter = .ok r) : ∀ t ∈ r.leafTests, t.WellTyped := by
  cases filter with
  | none =>
    cases resolved
    exact nofun
  | some f =>
    obtain ⟨c, checked, rfl⟩ := ofFilter_eq_ok.mp resolved
    intro t mem
    obtain ⟨p, mem, own⟩ := Predicate.mem_leafTestsAll.mp mem
    rcases List.mem_append.mp mem with mem | mem
    · obtain ⟨⟨j, index⟩, _, mem⟩ := List.mem_flatMap.mp mem
      dsimp only at mem
      split at mem
      · exact Dictionary.wellTyped_tests mem false t own
      · cases mem
    · rw [predicate_ofCondition] at mem
      cases List.mem_singleton.mp mem
      exact Condition.wellTyped_readOff (Filter.wellTyped_condition checked) false t own

end Resolution

/-! ## Predicates -/

namespace Predicate

mutual
/-- **A predicate whose tests are well typed**, and whose conjunctions and disjunctions have two
parts at least. -/
def WellTyped : Predicate → Prop
  | .test _ asked => asked.WellTyped
  | .constant _ => True
  | .all parts | .any parts => 2 ≤ parts.length ∧ WellTypedAll parts
  | .negation part => part.WellTyped
/-- All predicates are well typed. -/
def WellTypedAll : List Predicate → Prop
  | [] => True
  | p :: ps => p.WellTyped ∧ WellTypedAll ps
end

mutual
theorem wellTyped_of_leafTests : ∀ {p : Predicate} {inverted : Bool}, p.WellFormed →
    (∀ t ∈ p.leafTests inverted, t.WellTyped) → p.WellTyped
  | .test _ _, _, _, typed => typed _ List.mem_cons_self
  | .constant _, _, _, _ => trivial
  | .all _, _, h, typed | .any _, _, h, typed => ⟨h.1, wellTypedAll_of_leafTestsAll h.2 typed⟩
  | .negation part, _, h, typed => wellTyped_of_leafTests (p := part) h typed
theorem wellTypedAll_of_leafTestsAll : ∀ {ps : List Predicate}, WellFormedAll ps →
    (∀ t ∈ leafTestsAll ps, t.WellTyped) → WellTypedAll ps
  | [], _, _ => trivial
  | _ :: _, h, typed =>
    have ⟨first, rest⟩ := List.forall_mem_append.mp typed
    ⟨wellTyped_of_leafTests h.1 first, wellTypedAll_of_leafTestsAll h.2 rest⟩
end

end Predicate

/-! ## What leaves bind -/

/-- **NULL is bound in lists only**: where it is among the values of a leaf, the leaf is one of
membership and its column binds other values; it is never the one value behind an operator. -/
structure Fragment.BindsNullInLists (d : Dialect) (leaf : Fragment) : Prop where
  membership : .null ∈ leaf.params → ∃ column values negated,
    leaf = Test.membership (Column.fragment d column) values negated ∧
      .null ∉ (column.fragment d).params
  operator : ∀ left operator value, leaf = .ofTest left operator value → value ≠ .null

/-- Columns bind paths, and paths are texts. -/
theorem Column.null_notMem_params (d : Dialect) (column : Column) :
    .null ∉ (column.fragment d).params := by
  cases column <;> simp [fragment, Fragment.ofText]

namespace Test

/-- A membership ends with a parenthesis, a test of one value with its mark. -/
theorem membership_ne_ofTest (column left : Fragment) (values : List Value) (negated : Bool)
    (operator : String) (value : Value) :
    membership column values negated ≠ .ofTest left operator value := by
  have last : ∀ (s : String) {t : String} {c : Char}, t.toList.getLast? = some c →
      (s ++ t).toList.getLast? = some c := by
    intro s t c last
    rw [String.toList_append, List.getLast?_append, last, Option.some_or]
  intro same
  unfold membership at same
  split at same
  · have params := congrArg Fragment.params same
    simp [Fragment.ofBool, Fragment.ofText, Fragment.ofTest] at params
  · have text := congrArg (·.sql.toList.getLast?) same
    dsimp only [Fragment.ofTest] at text
    rw [last _ (show ")".toList.getLast? = some ')' by decide),
      last _ (show " ?".toList.getLast? = some '?' by decide)] at text
    cases text

/-- An equation, or its negation, with NULL is written with `IS`. -/
theorem isNull_of_wellTyped {op : Operator} (typed : (Test.compare op .null).WellTyped) :
    isNull op .null = true := by
  have equation := typed.2 (.inl rfl)
  cases op <;> simp [Operator.sql] at equation <;> rfl

end Test

namespace Sql.LeafTest

/-- **A well-typed leaf test binds NULL in lists only**, inverted or not. -/
theorem WellTyped.bindsNullInLists {t : LeafTest} (typed : t.WellTyped) (d : Dialect) :
    (t.fragment d).BindsNullInLists d := by
  have inLists : .null ∈ (t.fragment d).params → ∃ column values negated,
      t.fragment d = Test.membership (Column.fragment d column) values negated ∧
        .null ∉ (column.fragment d).params := by
    intro bound
    cases t with
    | constant holds => cases bound
    | test column asked inverted =>
      have own := column.null_notMem_params d
      cases asked with
      | compare op value =>
        rw [params_fragment, bindings, Test.bindings, List.map_append, ← column.params_fragment,
          List.mem_append, or_iff_right own] at bound
        split at bound
        · cases bound
        next isNull =>
          obtain rfl : value = .null := (List.mem_singleton.mp bound).symm
          exact absurd (Test.isNull_of_wellTyped typed) isNull
      | like pattern negated =>
        simp [fragment, Test.fragment, Fragment.ofTest, own] at bound
      | «matches» pattern negated =>
        simp [fragment, Test.fragment, Fragment.ofTest, own] at bound
      | among values negated => exact ⟨column, values, inverted != negated, rfl, own⟩
  refine ⟨inLists, ?_⟩
  rintro left operator value same rfl
  obtain ⟨column, values, negated, written, _⟩ := inLists (by simp [same, Fragment.ofTest])
  exact Test.membership_ne_ofTest _ left values negated operator .null (written.symm.trans same)

end Sql.LeafTest

/-! ## The law -/

namespace Compiler

variable {settings : Settings} {c : Compiler} {query : String} {q : CompiledQuery}

/-- **Compiled queries are well typed.** The predicates of their resolution compare by operators
that fit the values, and the condition that is written binds NULL in lists only. -/
theorem wellTyped_compile (accepted : ofSettings settings = .ok c)
    (compiled : c.compile query = .ok q) :
    ∃ r, c.resolve query = .ok r ∧ q = c.ofResolution r ∧ (∀ p ∈ r.conjuncts, p.WellTyped) ∧
      (q.condition = none ∧ q.whereParams = [] ∨
        ∃ w g, q.condition = some w ∧ Sql.Disjunction.Reads g c.dialect w ∧
          q.whereParams = g.leaves.flatMap (·.params) ∧
          ∀ leaf ∈ g.leaves, leaf.BindsNullInLists c.dialect) := by
  obtain ⟨filter, r, read, resolved, rfl⟩ := compile_eq_ok_iff.mp compiled
  have answer : c.resolve query = .ok r :=
    bind_eq_ok.mpr ⟨filter, read, mapError_eq_ok.mpr resolved⟩
  have wellFormed := wellFormed_resolve (accepted_of_ofSettings accepted) answer
  have typed := Resolution.wellTyped_leafTests resolved
  refine ⟨r, answer, rfl, fun p mem => ?_, ?_⟩
  · exact Predicate.wellTyped_of_leafTests (wellFormed.conjuncts p mem) fun t own =>
      typed t (Predicate.mem_leafTestsAll.mpr ⟨p, mem, own⟩)
  by_cases empty : r.conjuncts = []
  · refine .inl ⟨?_, ?_⟩
    · rw [condition_ofResolution, empty]
      rfl
    · rw [whereParams_ofResolution, Resolution.leafTests, empty]
      rfl
  · obtain ⟨reads, leaves⟩ := Resolution.reads_conjuncts wellFormed empty c.dialect
    refine .inr ⟨_, _, if_neg (mt List.isEmpty_iff.mp empty), reads, ?_, ?_⟩
    · rw [whereParams_ofResolution, leaves, List.flatMap_map, List.map_flatMap]
      simp only [Sql.LeafTest.params_fragment]
    · rw [leaves]
      exact List.forall_mem_map.mpr fun t mem => (typed t mem).bindsNullInLists c.dialect

/-- Runs with one name or none, and with a known duration. -/
def knownRuns : String := "run.name in ['a', None] and not run.duration == None"

/-- The condition of `knownRuns` in the standard settings. -/
def knownRunsWritten : Fragment :=
  ⟨"(\"runs\".\"name\" IN (?, ?) AND (runs.end_time - runs.start_time) / 1000 IS NOT NULL) AND " ++
      "\"runs\".\"lifecycle_stage\" <> ?",
    [.text "a", .null, .text "deleted"]⟩

/-- Of the two times that `knownRuns` says `None`, the one in the list is bound. -/
theorem wellTyped_compile_knownRuns :
    ∃ c q r g, ofSettings Settings.standard = .ok c ∧ c.compile knownRuns = .ok q ∧
      c.resolve knownRuns = .ok r ∧ (∀ p ∈ r.conjuncts, p.WellTyped) ∧
      q.condition = some knownRunsWritten ∧ Sql.Disjunction.Reads g c.dialect knownRunsWritten ∧
      ∀ leaf ∈ g.leaves, leaf.BindsNullInLists c.dialect := by
  have written : ((ofSettings Settings.standard).toOption.bind fun c =>
      (c.compile knownRuns).toOption.bind (·.condition)) = some knownRunsWritten := by
    decide +kernel
  obtain ⟨c, accepted, written⟩ := Option.bind_eq_some_iff.mp written
  obtain ⟨q, compiled, written⟩ := Option.bind_eq_some_iff.mp written
  rw [toOption_eq_some] at accepted compiled
  obtain ⟨r, answer, rfl, typed, ⟨none, _⟩ | ⟨w, g, some, reads, _, lists⟩⟩ :=
    wellTyped_compile accepted compiled
  · cases none.symm.trans written
  · cases some.symm.trans written
    exact ⟨c, _, r, g, accepted, compiled, answer, typed, some, reads, lists⟩

end Compiler

end RunFilter
