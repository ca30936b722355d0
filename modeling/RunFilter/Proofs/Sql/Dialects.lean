import RunFilter.Proofs.Compilation
import RunFilter.Proofs.Sql.Structure

/-!
# One query in two dialects

A dialect spells targets, operators and paths into documents. Nothing else of a compiled query
depends on it: the query is read and resolved before a dialect is looked at, and the text is made of
the same leaf tests in the same places.

**The law** (`Compiler.dialects_agree`): compilers of settings that differ in the dialect alone
refuse a query with the same mistake, or compile it with the same joins. Their conditions are read
with one skeleton, whose leaves spell the same leaf tests from left to right
(`Predicate.skeleton_reading`). What they bind is the same, up to the spelling of paths
(`Predicate.params_fragment`).
-/

set_option autoImplicit false

namespace RunFilter

/-! ## What is bound -/

/-- **What a mark stands for**, before a dialect spells it. -/
inductive Binding where
  | value (v : Value)
  /-- The keys on the way into a document. -/
  | path (keys : List String)

/-- The value that a dialect binds. -/
def Binding.spelled (d : Dialect) : Binding → Value
  | .value v => v
  | .path keys => .text (d.path keys)

/-- What is bound in a column. -/
def Column.bindings : Column → List Binding
  | .field _ _ | .expression _ => []
  | .document _ _ path => [.path path]

/-- A comparison with NULL that is written with `IS`. -/
def Test.isNull : Operator → Value → Bool
  | .equal, .null | .notEqual, .null => true
  | _, _ => false

/-- **What is bound in a test of a column**, inverted or not. Nothing is bound for NULL behind `IS`,
and nothing at all where membership in the empty list is decided. -/
def Test.bindings (column : Column) : Test → List Binding
  | .compare op value => column.bindings ++ if isNull op value then [] else [.value value]
  | .like pattern _ | .matches pattern _ => column.bindings ++ [.value (.text pattern)]
  | .among values _ => if values.isEmpty then [] else column.bindings ++ values.map .value

/-- What is bound in a leaf test. -/
def Sql.LeafTest.bindings : Sql.LeafTest → List Binding
  | .test column asked _ => asked.bindings column
  | .constant _ => []

theorem Column.params_fragment (d : Dialect) (column : Column) :
    (column.fragment d).params = column.bindings.map (·.spelled d) := by
  cases column <;> rfl

namespace Test

theorem isNull_negated (op : Operator) (value : Value) :
    isNull op.negated value = isNull op value := by
  cases op <;> cases value <;> rfl

theorem params_comparison (column : Fragment) (op : Operator) (value : Value) :
    (comparison column op value).params =
      column.params ++ if isNull op value then [] else [value] := by
  cases value with
  | null => cases op <;> simp [comparison, isNull, Fragment.ofTest]
  | bool | int | float | text => cases op <;> rfl

theorem params_membership (column : Fragment) (values : List Value) (negated : Bool) :
    (membership column values negated).params =
      if values.isEmpty then [] else column.params ++ values := by
  unfold membership
  split <;> rfl

/-- **A dialect spells what a test binds**, and binds nothing else. -/
theorem params_fragment (d : Dialect) (column : Column) (inverted : Bool) (asked : Test) :
    (asked.fragment d column inverted).params = (asked.bindings column).map (·.spelled d) := by
  have own := column.params_fragment d
  have spelled : ∀ values : List Value, (values.map Binding.value).map (·.spelled d) = values := by
    intro values
    rw [List.map_map]
    exact List.map_id values
  cases asked with
  | compare op value =>
    have asks : isNull (if inverted then op.negated else op) value = isNull op value := by
      cases inverted
      · rfl
      · exact isNull_negated op value
    rw [fragment, params_comparison, asks, own, bindings, List.map_append]
    split <;> rfl
  | like pattern negated =>
    rw [fragment, Fragment.ofTest, own, bindings, List.map_append]
    rfl
  | among values negated =>
    rw [fragment, params_membership, bindings]
    split
    · rfl
    · rw [List.map_append, own, spelled]
  | «matches» pattern negated =>
    rw [fragment, Fragment.ofTest, bindings, List.map_append, ← own]
    rfl

end Test

theorem Sql.LeafTest.params_fragment (d : Dialect) (t : Sql.LeafTest) :
    (t.fragment d).params = t.bindings.map (·.spelled d) := by
  cases t with
  | test column asked inverted => exact asked.params_fragment d column inverted
  | constant holds => rfl

namespace Clause

mutual
/-- The values of a clause are those of its leaves. -/
theorem params_fragment : ∀ c : Clause, c.fragment.params = c.leaves.flatMap (·.params)
  | .leaf f => (List.flatMap_singleton (·.params) f).symm
  | .negation part => params_fragment part
  | .all parts => params_operands _ parts
  | .any parts => params_operands _ parts
theorem params_operands (several : Bool) : ∀ cs : List Clause,
    (operands several cs).flatMap (·.params) = (leavesAll cs).flatMap (·.params)
  | [] => rfl
  | c :: cs => by
    have own : (if several && c.isCompound then c.fragment.grouped else c.fragment).params =
        c.leaves.flatMap (·.params) := by
      rw [← params_fragment c]
      split <;> rfl
    rw [operands, List.flatMap_cons, own, params_operands several cs, leavesAll,
      List.flatMap_append]
end

end Clause

/-- **The values of a predicate are what its leaf tests bind**, from left to right. -/
theorem Predicate.params_fragment (d : Dialect) (p : Predicate) :
    (p.fragment d).params =
      ((p.leafTests false).flatMap (·.bindings)).map (·.spelled d) := by
  rw [fragment, Clause.params_fragment, leaves_clause, List.flatMap_map, List.map_flatMap]
  simp only [Sql.LeafTest.params_fragment]

/-! ## Skeletons -/

namespace Sql

mutual
/-- **A condition with blank leaves.** -/
def Disjunction.skeleton : Disjunction → Disjunction
  | .last c => .last c.skeleton
  | .or c g => .or c.skeleton g.skeleton
/-- A conjunction with blank leaves. -/
def Conjunction.skeleton : Conjunction → Conjunction
  | .last f => .last f.skeleton
  | .and f c => .and f.skeleton c.skeleton
/-- A factor with blank leaves. -/
def Factor.skeleton : Factor → Factor
  | .leaf _ => .leaf (.ofText "")
  | .group g => .group g.skeleton
  | .negation g => .negation g.skeleton
end

theorem Conjunction.skeleton_splice : ∀ b c : Conjunction,
    (b.splice c).skeleton = b.skeleton.splice c.skeleton
  | .last _, _ => rfl
  | .and f b, c => congrArg (Conjunction.and f.skeleton) (skeleton_splice b c)

theorem Disjunction.skeleton_spliceOr : ∀ g h : Disjunction,
    (g.spliceOr h).skeleton = g.skeleton.spliceOr h.skeleton
  | .last _, _ => rfl
  | .or c g, h => congrArg (Disjunction.or c.skeleton) (skeleton_spliceOr g h)

theorem Disjunction.skeleton_spliceAnd : ∀ g h : Disjunction,
    (g.spliceAnd h).skeleton = g.skeleton.spliceAnd h.skeleton
  | .last c, .last c' => congrArg Disjunction.last (c.skeleton_splice c')
  | .last c, .or c' h => congrArg (Disjunction.or · h.skeleton) (c.skeleton_splice c')
  | .or c g, h => congrArg (Disjunction.or c.skeleton) (skeleton_spliceAnd g h)

theorem Disjunction.skeleton_enclosed (needed : Bool) (g : Disjunction) :
    (g.enclosed needed).skeleton = g.skeleton.enclosed needed := by
  cases needed <;> rfl

end Sql

namespace Predicate

open Sql (Disjunction)

variable (d d' : Dialect)

theorem isCompound_clause : ∀ (p : Predicate) (inverted : Bool),
    (p.clause d inverted).isCompound = (p.clause d' inverted).isCompound
  | .negation part, inverted => isCompound_clause part !inverted
  | .test _ _, _ | .constant _, _ => rfl
  | .all parts, inverted | .any parts, inverted => by
    cases inverted <;> simp [clause, wrapped, Clause.isCompound, length_clauses]

theorem skeleton_wrapped {c c' : Clause} (h : c.reading.skeleton = c'.reading.skeleton)
    (inverted : Bool) : (wrapped inverted c).reading.skeleton =
      (wrapped inverted c').reading.skeleton := by
  cases inverted with
  | false => exact h
  | true => exact congrArg (fun g => (Sql.Factor.negation g).alone) h

mutual
/-- **The dialect does not show in the skeleton** of a predicate. -/
theorem skeleton_reading : ∀ (p : Predicate) (inverted : Bool),
    (p.clause d inverted).reading.skeleton = (p.clause d' inverted).reading.skeleton
  | .test _ _, _ | .constant _, _ => rfl
  | .all parts, inverted => by
    refine skeleton_wrapped ?_ inverted
    rw [Clause.reading, Clause.reading, length_clauses, length_clauses]
    exact skeleton_spliced Disjunction.skeleton_spliceAnd _ parts
  | .any parts, inverted => by
    refine skeleton_wrapped ?_ inverted
    rw [Clause.reading, Clause.reading, length_clauses, length_clauses]
    exact skeleton_spliced Disjunction.skeleton_spliceOr _ parts
  | .negation part, inverted => skeleton_reading part !inverted
theorem skeleton_spliced {splice : Disjunction → Disjunction → Disjunction}
    (parted : ∀ g h, (splice g h).skeleton = splice g.skeleton h.skeleton) (several : Bool) :
    ∀ ps : List Predicate, (Clause.spliced splice several (clauses d ps)).skeleton =
      (Clause.spliced splice several (clauses d' ps)).skeleton
  | [] => rfl
  | [p] => by
    simp only [clauses, Clause.spliced, Disjunction.skeleton_enclosed, skeleton_reading p false,
      isCompound_clause d d' p false]
  | p :: q :: ps => by
    have rest := skeleton_spliced parted several (q :: ps)
    simp only [clauses, Clause.spliced, parted, Disjunction.skeleton_enclosed,
      skeleton_reading p false, isCompound_clause d d' p false]
    exact congrArg _ rest
end

end Predicate

/-! ## Conditions in two dialects -/

/-- **The only reading of a text.** -/
structure Sql.Disjunction.Reads (g : Sql.Disjunction) (d : Dialect) (w : Fragment) : Prop where
  text : g.fragment = w
  leaves : g.Every (Sql.IsLeaf d)
  alone : ∀ other : Sql.Disjunction, other.fragment = w → other.Every (Sql.IsLeaf d) → other = g

namespace Resolution

/-- The leaf tests of a resolution from left to right. -/
def leafTests (r : Resolution) : List Sql.LeafTest := Predicate.leafTestsAll r.conjuncts

/-- **The conjuncts of a resolution in a dialect** are read as one conjunction of its leaf tests. -/
theorem reads_conjuncts {r : Resolution} (wellFormed : r.WellFormed) (some : r.conjuncts ≠ [])
    (d : Dialect) :
    ((Predicate.all r.conjuncts).clause d false).reading.Reads d
        ((Predicate.all r.conjuncts).fragment d) ∧
      ((Predicate.all r.conjuncts).clause d false).reading.leaves =
        r.leafTests.map (·.fragment d) := by
  have parts := Predicate.wellFormedAll_iff.mpr wellFormed.conjuncts
  have filled : (Predicate.all r.conjuncts).Filled :=
    ⟨some, Predicate.filledAll_of_wellFormed parts⟩
  have plain : ∀ t ∈ (Predicate.all r.conjuncts).leafTests false, t.Plain :=
    Predicate.plain_leafTestsAll parts
  exact ⟨⟨Clause.fragment_reading _, Predicate.every_isLeaf_reading filled plain,
    fun other text leaves => Predicate.eq_reading filled plain text leaves⟩,
    Predicate.leaves_reading filled⟩

end Resolution

/-! ## The law -/

namespace Compiler

/-- A query is resolved before a dialect is looked at. -/
theorem resolve_congr {c c' : Compiler} (tables : c.settings.tables = c'.settings.tables)
    (default : c.settings.default = c'.settings.default)
    (filter : c.defaultFilter = c'.defaultFilter) (query : String) :
    c.resolve query = c'.resolve query := by
  unfold resolve withDefault mentionsMarker
  rw [tables, default, filter]

/-- The condition is that of one conjunction, however many conjuncts it has. -/
theorem condition_ofResolution (c : Compiler) (r : Resolution) :
    (c.ofResolution r).condition =
      if r.conjuncts.isEmpty then none else some ((Predicate.all r.conjuncts).fragment c.dialect) :=
  rfl

theorem whereParams_ofResolution (c : Compiler) (r : Resolution) :
    (c.ofResolution r).whereParams =
      (r.leafTests.flatMap (·.bindings)).map (·.spelled c.dialect) := by
  rw [CompiledQuery.whereParams, condition_ofResolution]
  by_cases empty : r.conjuncts = []
  · rw [Resolution.leafTests, empty]
    rfl
  · rw [if_neg (mt List.isEmpty_iff.mp empty)]
    exact Predicate.params_fragment c.dialect (.all r.conjuncts)

/-- **Dialects agree on everything but spelling.** Compilers of settings that differ in the dialect
alone make the same mistake of a query, or the same joins. Both conditions are missing, or both have
one reading, with one skeleton and with the same leaf tests from left to right. What is bound is the
same too, but for the paths into documents, which each dialect spells. -/
theorem dialects_agree {settings : Settings} {name : String} {c c' : Compiler}
    (accepted : ofSettings settings = .ok c)
    (accepted' : ofSettings { settings with dialect := name } = .ok c') (query : String) :
    (∃ e, c.compile query = .error e ∧ c'.compile query = .error e) ∨
    ∃ q q', c.compile query = .ok q ∧ c'.compile query = .ok q' ∧
      q.joins = q'.joins ∧ q.metricSelected = q'.metricSelected ∧
      ∃ tests : List Sql.LeafTest,
        q.whereParams = (tests.flatMap (·.bindings)).map (·.spelled c.dialect) ∧
        q'.whereParams = (tests.flatMap (·.bindings)).map (·.spelled c'.dialect) ∧
        (q.condition = none ∧ q'.condition = none ∨
          ∃ w w' g g', q.condition = some w ∧ q'.condition = some w' ∧
            Sql.Disjunction.Reads g c.dialect w ∧ Sql.Disjunction.Reads g' c'.dialect w' ∧
            g.skeleton = g'.skeleton ∧ g.leaves = tests.map (·.fragment c.dialect) ∧
            g'.leaves = tests.map (·.fragment c'.dialect)) := by
  have same : c.resolve query = c'.resolve query := by
    obtain ⟨d, default, _, _, read, _, rfl⟩ := ofSettings_eq_ok.mp accepted
    obtain ⟨d', default', _, _, read', _, rfl⟩ := ofSettings_eq_ok.mp accepted'
    obtain rfl : default = default' := Except.ok.inj (read.symm.trans read')
    exact resolve_congr rfl rfl rfl query
  cases resolved : c.resolve query with
  | error e =>
    refine .inl ⟨e, ?_, ?_⟩
    · rw [compile, resolved]
      rfl
    · rw [compile, ← same, resolved]
      rfl
  | ok r =>
    have wellFormed := wellFormed_resolve (accepted_of_ofSettings accepted) resolved
    refine .inr ⟨c.ofResolution r, c'.ofResolution r, compile_eq_ok.mpr ⟨r, resolved, rfl⟩,
      compile_eq_ok.mpr ⟨r, same ▸ resolved, rfl⟩, rfl, rfl, r.leafTests,
      whereParams_ofResolution c r, whereParams_ofResolution c' r, ?_⟩
    rw [condition_ofResolution, condition_ofResolution]
    by_cases empty : r.conjuncts = []
    · rw [empty]
      exact .inl ⟨rfl, rfl⟩
    · obtain ⟨reads, leaves⟩ := Resolution.reads_conjuncts wellFormed empty c.dialect
      obtain ⟨reads', leaves'⟩ := Resolution.reads_conjuncts wellFormed empty c'.dialect
      have some := mt List.isEmpty_iff.mp empty
      exact .inr ⟨_, _, _, _, if_neg some, if_neg some, reads, reads',
        Predicate.skeleton_reading _ _ _ false, leaves, leaves'⟩

/-- Runs that are called after a pattern, or have a small loss on one subset. -/
def calledOrLoss : String :=
  "re.match('a', run.name) or run.metrics['loss', \x7b'subset': 'val'\x7d].last < 1"

/-- Two dialects bind five values for `calledOrLoss`, and spell the path among them. -/
theorem dialects_agree_calledOrLoss :
    ∃ c c' q q', ofSettings Settings.standard = .ok c ∧
      ofSettings { Settings.standard with dialect := "sqlite" } = .ok c' ∧
      c.compile calledOrLoss = .ok q ∧ c'.compile calledOrLoss = .ok q' ∧ q.joins = q'.joins ∧
      q.whereParams = [.text "^a", .text "\x7bsubset\x7d", .text "val", .int 1, .text "deleted"] ∧
      q'.whereParams = [.text "^a", .text "$.subset", .text "val", .int 1, .text "deleted"] ∧
      ∃ w w' g g', q.condition = some w ∧ q'.condition = some w' ∧
        Sql.Disjunction.Reads g c.dialect w ∧ Sql.Disjunction.Reads g' c'.dialect w' ∧
        g.skeleton = g'.skeleton := by
  have bound : ((ofSettings Settings.standard).toOption.bind fun c =>
      (c.compile calledOrLoss).toOption.map (·.whereParams)) =
        some [.text "^a", .text "\x7bsubset\x7d", .text "val", .int 1, .text "deleted"] := by
    decide +kernel
  have bound' : ((ofSettings { Settings.standard with dialect := "sqlite" }).toOption.bind fun c =>
      (c.compile calledOrLoss).toOption.map (·.whereParams)) =
        some [.text "^a", .text "$.subset", .text "val", .int 1, .text "deleted"] := by
    decide +kernel
  obtain ⟨c, accepted, bound⟩ := Option.bind_eq_some_iff.mp bound
  obtain ⟨c', accepted', bound'⟩ := Option.bind_eq_some_iff.mp bound'
  obtain ⟨q, compiled, bound⟩ := Option.map_eq_some_iff.mp bound
  obtain ⟨q', compiled', bound'⟩ := Option.map_eq_some_iff.mp bound'
  rw [toOption_eq_some] at accepted accepted' compiled compiled'
  rcases dialects_agree accepted accepted' calledOrLoss with
    ⟨e, error, _⟩ | ⟨_, _, own, own', joins, _, tests, _, _, none | both⟩
  · cases error.symm.trans compiled
  · cases own.symm.trans compiled
    rw [CompiledQuery.whereParams, none.1] at bound
    cases bound
  · cases own.symm.trans compiled
    cases own'.symm.trans compiled'
    obtain ⟨w, w', g, g', some, some', reads, reads', skeleton, _⟩ := both
    exact ⟨c, c', q, q', accepted, accepted', compiled, compiled', joins, bound, bound', w, w', g,
      g', some, some', reads, reads', skeleton⟩

end Compiler

end RunFilter
