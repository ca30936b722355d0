import RunFilter.Proofs.Shape
import RunFilter.Sql.Emission
import RunFilter.Sql.Select

/-!
# Statements of one shape

A predicate becomes text in the same way whatever is bound in it: texts, numbers and the paths into
documents go to the parameters. So the text of a predicate, and the kinds of its parameters, are
those of its shape (`shape_clause`, `shape_fragment`).
-/

set_option autoImplicit false

namespace RunFilter

/-- A column with a blank path. Tables and columns are not the user's. -/
def Column.shape : Column → Column
  | .field table column => .field table column
  | .expression sql => .expression sql
  | .document table column _ => .document table column []

/-- **The text of a piece and the kinds of its values.** -/
def Fragment.shape (f : Fragment) : Fragment := ⟨f.sql, f.params.map Value.shape⟩

namespace Predicate

mutual
/-- **The shape of a predicate.** -/
def shape : Predicate → Predicate
  | .test column asked => .test column.shape asked.shape
  | .constant holds => .constant holds
  | .all parts => .all (shapes parts)
  | .any parts => .any (shapes parts)
  | .negation part => .negation part.shape
/-- The shapes of predicates. -/
def shapes : List Predicate → List Predicate
  | [] => []
  | p :: ps => p.shape :: shapes ps
end

theorem shapes_eq_map (ps : List Predicate) : shapes ps = ps.map shape := by
  induction ps with
  | nil => rfl
  | cons p ps ih => rw [shapes, ih, List.map_cons]

end Predicate

namespace Clause

mutual
/-- **The shape of a clause.** -/
def shape : Clause → Clause
  | .leaf fragment => .leaf fragment.shape
  | .all parts => .all (shapes parts)
  | .any parts => .any (shapes parts)
  | .negation part => .negation part.shape
/-- The shapes of clauses. -/
def shapes : List Clause → List Clause
  | [] => []
  | c :: cs => c.shape :: shapes cs
end

end Clause

/-! ## Pieces -/

namespace Fragment

@[simp] theorem sql_shape (f : Fragment) : f.shape.sql = f.sql := rfl

@[simp] theorem shape_grouped (f : Fragment) : f.grouped.shape = f.shape.grouped := rfl

@[simp] theorem shape_ofTest (column : Fragment) (operator : String) (value : Value) :
    (ofTest column operator value).shape = ofTest column.shape operator value.shape := by
  simp [shape, ofTest]

@[simp] theorem shape_join (separator : String) (parts : List Fragment) :
    (join separator parts).shape = join separator (parts.map shape) := by
  simp [shape, join, List.map_flatMap, List.flatMap_map, Function.comp_def]

end Fragment

namespace Test

@[simp] theorem shape_comparison (column : Fragment) (op : Operator) (value : Value) :
    (comparison column op value).shape = comparison column.shape op value.shape := by
  cases value <;> cases op <;> simp [comparison, Value.shape] <;> rfl

@[simp] theorem shape_membership (column : Fragment) (values : List Value) (negated : Bool) :
    (membership column values negated).shape =
      membership column.shape (values.map Value.shape) negated := by
  cases values with
  | nil => rfl
  | cons value values => simp [membership, Fragment.shape, Function.comp_def]

end Test

theorem Column.shape_fragment (d : Dialect) (column : Column) :
    (column.fragment d).shape = (column.shape.fragment d).shape := by
  cases column <;> rfl

/-- **A test is written as its shape is.** -/
theorem Test.shape_fragment (d : Dialect) (column : Column) (inverted : Bool) (asked : Test) :
    (asked.fragment d column inverted).shape =
      (asked.shape.fragment d column.shape inverted).shape := by
  have same := column.shape_fragment d
  cases asked with
  | compare op value => simp [fragment, shape, same]
  | like pattern negated => simp [fragment, shape, same, Value.shape]
  | among values negated => simp [fragment, shape, same, Function.comp_def]
  | «matches» pattern negated =>
    obtain ⟨sql, params⟩ := Fragment.mk.inj same
    simp [fragment, shape, Fragment.shape, Fragment.ofTest, Value.shape, sql, params]

/-! ## Clauses and predicates -/

namespace Clause

theorem shapes_eq_map (cs : List Clause) : shapes cs = cs.map shape := by
  induction cs with
  | nil => rfl
  | cons c cs ih => rw [shapes, ih, List.map_cons]

@[simp] theorem isCompound_shape (c : Clause) : c.shape.isCompound = c.isCompound := by
  cases c <;> simp [shape, isCompound, shapes_eq_map]

mutual
/-- **A clause is written as its shape is.** -/
theorem shape_fragment : ∀ c : Clause, c.fragment.shape = c.shape.fragment
  | .leaf f => rfl
  | .all parts => by
    simp only [fragment, shape, Fragment.shape_join, shape_operands parts, shapes_eq_map,
      List.length_map]
  | .any parts => by
    simp only [fragment, shape, Fragment.shape_join, shape_operands parts, shapes_eq_map,
      List.length_map]
  | .negation part => by
    simp only [fragment, shape, ← shape_fragment part]
    rfl
theorem shape_operands : ∀ (cs : List Clause) (several : Bool),
    (operands several cs).map Fragment.shape = operands several (shapes cs)
  | [], _ => rfl
  | c :: cs, several => by
    simp only [operands, shapes, List.map_cons, shape_operands cs, isCompound_shape,
      ← shape_fragment c]
    split <;> rfl
end

end Clause

namespace Predicate

theorem shape_wrapped (inverted : Bool) (c : Clause) :
    (wrapped inverted c).shape = wrapped inverted c.shape := by
  cases inverted <;> rfl

mutual
/-- **A predicate becomes the clause that its shape becomes**, bound values aside. -/
theorem shape_clause (d : Dialect) : ∀ (p : Predicate) (inverted : Bool),
    (p.clause d inverted).shape = (p.shape.clause d inverted).shape
  | .test column asked, inverted => by
    simp only [clause, shape, Clause.shape, asked.shape_fragment d column inverted]
  | .constant holds, _ => rfl
  | .all parts, _ => by
    simp only [clause, shape, shape_wrapped, Clause.shape, shape_clauses d parts]
  | .any parts, _ => by
    simp only [clause, shape, shape_wrapped, Clause.shape, shape_clauses d parts]
  | .negation part, inverted => shape_clause d part !inverted
theorem shape_clauses (d : Dialect) : ∀ ps : List Predicate,
    Clause.shapes (clauses d ps) = Clause.shapes (clauses d (shapes ps))
  | [] => rfl
  | p :: ps => by
    simp only [clauses, shapes, Clause.shapes, shape_clause d p, shape_clauses d ps]
end

end Predicate

/-- **A condition is written as that of the shapes is.** -/
theorem shape_whereFragment (d : Dialect) (filters : List Predicate)
    (predicate : Option Predicate) :
    (whereFragment d filters predicate).map Fragment.shape =
      (whereFragment d (filters.map Predicate.shape) (predicate.map Predicate.shape)).map
        Fragment.shape := by
  unfold whereFragment
  rw [Option.toList_map, ← List.map_append]
  generalize filters ++ predicate.toList = conjuncts
  have clauses := Predicate.shape_clauses d conjuncts
  rw [Predicate.shapes_eq_map] at clauses
  simp only [List.isEmpty_map]
  split
  · rfl
  · simp only [Option.map_some, Clause.shape_fragment, Clause.shape, clauses]

/-! ## Statements -/

/-- The parts of a statement with blank values. -/
def Select.shape (s : Select) : Select :=
  { s with
    joins := s.joins.map Fragment.shape
    conditions := s.conditions.map Fragment.shape }

theorem Select.conditionText_shape (s : Select) : s.shape.conditionText = s.conditionText := by
  have joined : ∀ parts : List Fragment,
      (Fragment.join " AND " (parts.map Fragment.shape)).sql =
        (Fragment.join " AND " parts).sql := by
    intro parts
    rw [← Fragment.shape_join, Fragment.sql_shape]
  have grouped : (s.conditions.map Fragment.shape).map Fragment.grouped =
      (s.conditions.map Fragment.grouped).map Fragment.shape := by
    simp [Function.comp_def]
  unfold conditionText shape
  simp only [List.isEmpty_map, List.length_map, grouped]
  split
  · rfl
  · split
    · simp only [joined]
    · simp only [joined]

/-- **A statement is written as its shape is.** -/
theorem Select.sql_build_shape (s : Select) : s.shape.build.sql = s.build.sql := by
  have joins : s.shape.joins.map (fun part => " " ++ part.sql) =
      s.joins.map fun part => " " ++ part.sql := by
    simp [shape, Function.comp_def]
  simp only [build, unnumbered, conditionText_shape, joins]
  rfl

end RunFilter
