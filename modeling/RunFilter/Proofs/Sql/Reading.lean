import RunFilter.Proofs.WellFormed

/-!
# The grammar of conditions

The condition that a compiler writes is text. This module has the grammar it is read in, where `OR`
binds loosest, then `AND`, and a factor is a leaf, a group, or `NOT` before a group. It also says
what a row makes of leaves: an interpretation gives them truth values that turn round with their
operators.

**The law** (`Predicate.truth_clause`): the clause of a predicate has the truth value of the
predicate, and the inverted clause that of its negation. A leaf is inverted by the operator that
stands opposite to its own (`Test.turned_fragment`), never by a text around it.

A reading keeps the values of the placeholders with the text, so that equal fragments are one text
with one list of values. What a leaf says of a row is left to the interpretation.
-/

set_option autoImplicit false

namespace RunFilter

namespace Fragment

/-- Two pieces with a separator between them. -/
def beside (separator : String) (f g : Fragment) : Fragment :=
  ⟨f.sql ++ separator ++ g.sql, f.params ++ g.params⟩

/-- The piece in parentheses behind `NOT`. -/
def negated (f : Fragment) : Fragment := { f with sql := "NOT (" ++ f.sql ++ ")" }

theorem join_singleton (separator : String) (f : Fragment) : join separator [f] = f := by
  simp only [join, List.map_cons, List.map_nil, String.intercalate_singleton, List.flatMap_cons,
    List.flatMap_nil, List.append_nil]

theorem join_cons (separator : String) (f g : Fragment) (fs : List Fragment) :
    join separator (f :: g :: fs) = f.beside separator (join separator (g :: fs)) := by
  simp only [join, beside, List.map_cons, String.intercalate_cons_cons, List.flatMap_cons]

end Fragment

namespace Sql

/-! ## The grammar of conditions -/

mutual
/-- **A condition**: conjunctions with `OR` between them. -/
inductive Disjunction where
  | last (c : Conjunction)
  | or (c : Conjunction) (d : Disjunction)
/-- Factors with `AND` between them. -/
inductive Conjunction where
  | last (f : Factor)
  | and (f : Factor) (c : Conjunction)
/-- A leaf, a group, or the negation of a group. -/
inductive Factor where
  | leaf (f : Fragment)
  | group (d : Disjunction)
  | negation (d : Disjunction)
end

mutual
/-- The text of a condition. -/
def Disjunction.fragment : Disjunction → Fragment
  | .last c => c.fragment
  | .or c d => c.fragment.beside " OR " d.fragment
/-- The text of a conjunction. -/
def Conjunction.fragment : Conjunction → Fragment
  | .last f => f.fragment
  | .and f c => f.fragment.beside " AND " c.fragment
/-- The text of a factor. -/
def Factor.fragment : Factor → Fragment
  | .leaf f => f
  | .group d => d.fragment.grouped
  | .negation d => d.fragment.negated
end

mutual
/-- **The truth value of a condition** for truth values of its leaves. -/
def Disjunction.truth (leaf : Fragment → Truth) : Disjunction → Truth
  | .last c => c.truth leaf
  | .or c d => (c.truth leaf).or (d.truth leaf)
/-- The truth value of a conjunction. -/
def Conjunction.truth (leaf : Fragment → Truth) : Conjunction → Truth
  | .last f => f.truth leaf
  | .and f c => (f.truth leaf).and (c.truth leaf)
/-- The truth value of a factor. -/
def Factor.truth (leaf : Fragment → Truth) : Factor → Truth
  | .leaf f => leaf f
  | .group d => d.truth leaf
  | .negation d => (d.truth leaf).not
end

mutual
/-- All leaves of a condition have a property. -/
def Disjunction.Every (P : Fragment → Prop) : Disjunction → Prop
  | .last c => c.Every P
  | .or c d => c.Every P ∧ d.Every P
/-- All leaves of a conjunction have a property. -/
def Conjunction.Every (P : Fragment → Prop) : Conjunction → Prop
  | .last f => f.Every P
  | .and f c => f.Every P ∧ c.Every P
/-- All leaves of a factor have a property. -/
def Factor.Every (P : Fragment → Prop) : Factor → Prop
  | .leaf f => P f
  | .group d | .negation d => d.Every P
end

mutual
/-- The leaves of a condition from left to right. -/
def Disjunction.leaves : Disjunction → List Fragment
  | .last c => c.leaves
  | .or c d => c.leaves ++ d.leaves
/-- The leaves of a conjunction from left to right. -/
def Conjunction.leaves : Conjunction → List Fragment
  | .last f => f.leaves
  | .and f c => f.leaves ++ c.leaves
/-- The leaves of a factor from left to right. -/
def Factor.leaves : Factor → List Fragment
  | .leaf f => [f]
  | .group d | .negation d => d.leaves
end

section Every

variable {P : Fragment → Prop}

mutual
theorem Disjunction.every_iff : ∀ {g : Disjunction}, g.Every P ↔ ∀ f ∈ g.leaves, P f
  | .last c => Conjunction.every_iff (g := c)
  | .or c g => by
    rw [Disjunction.Every, Disjunction.leaves, List.forall_mem_append, Conjunction.every_iff,
      Disjunction.every_iff]
theorem Conjunction.every_iff : ∀ {g : Conjunction}, g.Every P ↔ ∀ f ∈ g.leaves, P f
  | .last f => Factor.every_iff (g := f)
  | .and f c => by
    rw [Conjunction.Every, Conjunction.leaves, List.forall_mem_append, Factor.every_iff,
      Conjunction.every_iff]
theorem Factor.every_iff : ∀ {g : Factor}, g.Every P ↔ ∀ f ∈ g.leaves, P f
  | .leaf f => (List.forall_mem_singleton (p := P) (a := f)).symm
  | .group g | .negation g => Disjunction.every_iff (g := g)
end

end Every

/-! ## Leaves and their interpretations -/

/-- **A leaf test**: a test of a plain column, or a condition that holds always or never. -/
def IsLeaf (d : Dialect) (f : Fragment) : Prop :=
  (∃ column asked inverted, column.Plain ∧ f = Test.fragment d column inverted asked) ∨
    ∃ holds, f = .ofBool holds

/-- **A leaf test before a dialect spells it**: a test of a column or its negation, or a condition
that holds always or never. -/
inductive LeafTest where
  | test (column : Column) (asked : Test) (inverted : Bool)
  | constant (holds : Bool)

namespace LeafTest

/-- The text of a leaf test. -/
def fragment (d : Dialect) : LeafTest → Fragment
  | .test column asked inverted => asked.fragment d column inverted
  | .constant holds => .ofBool holds

/-- A leaf test on a plain column, if it is on a column. -/
def Plain : LeafTest → Prop
  | .test column _ _ => column.Plain
  | .constant _ => True

theorem Plain.isLeaf {d : Dialect} : ∀ {t : LeafTest}, t.Plain → IsLeaf d (t.fragment d)
  | .test column asked inverted, h => .inl ⟨column, asked, inverted, h, rfl⟩
  | .constant holds, _ => .inr ⟨holds, rfl⟩

end LeafTest

/-- The operators that stand before one placeholder, each with its flipped operator. -/
def flippedOperators : List (String × String) :=
  [("=", "<>"), ("<", ">="), (">", "<="), ("LIKE", "NOT LIKE"), ("IN", "NOT IN")]

/-- The operators of a match by a regular expression, plain and flipped. -/
def matchingOperators : Dialect → String × String
  | .postgres => ("~", "!~")
  | .sqlite => ("REGEXP", "NOT REGEXP")

/-- **A leaf and the leaf with the flipped operator.** -/
inductive Flipped (d : Dialect) : Fragment → Fragment → Prop
  | operator {column : Column} (plain : column.Plain) {op flipped : String}
      (h : (op, flipped) ∈ flippedOperators) (value : Value) :
      Flipped d (.ofTest (column.fragment d) op value) (.ofTest (column.fragment d) flipped value)
  | null {column : Column} (plain : column.Plain) :
      Flipped d ⟨(column.fragment d).sql ++ " IS NULL", (column.fragment d).params⟩
        ⟨(column.fragment d).sql ++ " IS NOT NULL", (column.fragment d).params⟩
  | membership {column : Column} (plain : column.Plain) (marks : String) (values : List Value) :
      Flipped d ⟨(column.fragment d).sql ++ " " ++ "IN" ++ " (" ++ marks ++ ")",
          (column.fragment d).params ++ values⟩
        ⟨(column.fragment d).sql ++ " " ++ "NOT IN" ++ " (" ++ marks ++ ")",
          (column.fragment d).params ++ values⟩
  | matching {column : Column} (plain : column.Plain) (value : Value) :
      Flipped d
        (.ofTest ⟨d.regexTarget (column.fragment d).sql, (column.fragment d).params⟩
          (matchingOperators d).1 value)
        (.ofTest ⟨d.regexTarget (column.fragment d).sql, (column.fragment d).params⟩
          (matchingOperators d).2 value)
  | constant : Flipped d (.ofText "1 = 1") (.ofText "1 = 0")

/-- **A leaf of a column and the leaf with the flipped operator**, whatever the column. -/
inductive Turned (d : Dialect) (column : Fragment) : Fragment → Fragment → Prop
  | operator {op flipped : String} (h : (op, flipped) ∈ flippedOperators) (value : Value) :
      Turned d column (.ofTest column op value) (.ofTest column flipped value)
  | null : Turned d column ⟨column.sql ++ " IS NULL", column.params⟩
      ⟨column.sql ++ " IS NOT NULL", column.params⟩
  | membership (marks : String) (values : List Value) :
      Turned d column ⟨column.sql ++ " " ++ "IN" ++ " (" ++ marks ++ ")", column.params ++ values⟩
        ⟨column.sql ++ " " ++ "NOT IN" ++ " (" ++ marks ++ ")", column.params ++ values⟩
  | matching (value : Value) :
      Turned d column
        (.ofTest ⟨d.regexTarget column.sql, column.params⟩ (matchingOperators d).1 value)
        (.ofTest ⟨d.regexTarget column.sql, column.params⟩ (matchingOperators d).2 value)
  | constant : Turned d column (.ofText "1 = 1") (.ofText "1 = 0")

/-- The truth values of what a leaf test may be written as turn round with the operator. -/
def LeafTest.Turns (d : Dialect) (leaf : Fragment → Truth) : LeafTest → Prop
  | .test column _ _ => ∀ f g, Turned d (column.fragment d) f g → leaf g = (leaf f).not
  | .constant _ => leaf (.ofText "1 = 0") = (leaf (.ofText "1 = 1")).not

/-- What truth values of leaves say of the leaves of a predicate. -/
def valuation (d : Dialect) (leaf : Fragment → Truth) : Valuation where
  test column asked := leaf (asked.fragment d column false)
  constant holds := leaf (.ofBool holds)

/-- **Truth values of leaves** that turn round with the operator. -/
structure Interpretation (d : Dialect) where
  leaf : Fragment → Truth
  flipped : ∀ {f g : Fragment}, Flipped d f g → leaf g = (leaf f).not

namespace Interpretation

variable {d : Dialect} (I : Interpretation d)

/-- What an interpretation says of the leaves of a predicate. -/
def valuation : Valuation where
  test column asked := I.leaf (asked.fragment d column false)
  constant holds := I.leaf (.ofBool holds)

/-- An interpretation turns round with the operators of plain columns. -/
theorem turns {t : LeafTest} (plain : t.Plain) : t.Turns d I.leaf := by
  cases t with
  | constant holds => exact I.flipped .constant
  | test column asked inverted =>
    intro f g turned
    cases turned with
    | operator h value => exact I.flipped (.operator plain h value)
    | null => exact I.flipped (.null plain)
    | membership marks values => exact I.flipped (.membership plain marks values)
    | matching value => exact I.flipped (.matching plain value)
    | constant => exact I.flipped .constant

end Interpretation

end Sql

/-! ## Inverted leaves -/

namespace Test

open Sql (Turned)

variable (d : Dialect) (column : Fragment)

theorem turned_ofTest (op : Operator) (value : Value) :
    Turned d column (.ofTest column op.sql value) (.ofTest column op.negated.sql value) ∨
      Turned d column (.ofTest column op.negated.sql value) (.ofTest column op.sql value) := by
  cases op with
  | equal | less | greater | among => exact .inl (.operator (by decide) value)
  | notEqual | lessEqual | greaterEqual | notAmong => exact .inr (.operator (by decide) value)

theorem turned_comparison (op : Operator) (value : Value) :
    Turned d column (comparison column op value) (comparison column op.negated value) ∨
      Turned d column (comparison column op.negated value) (comparison column op value) := by
  cases value with
  | null =>
    cases op with
    | equal => exact .inl .null
    | notEqual => exact .inr .null
    | less | greater | lessEqual | greaterEqual | among | notAmong =>
      exact turned_ofTest d column _ .null
  | bool | int | float | text => exact turned_ofTest d column op _

theorem turned_membership (values : List Value) :
    Turned d column (membership column values false) (membership column values true) ∨
      Turned d column (membership column values true) (membership column values false) := by
  unfold membership
  split
  · exact .inr .constant
  · exact .inl (.membership _ values)

/-- **Inversion flips the operator of a leaf**, one way or the other. -/
theorem turned_fragment (column : Column) (asked : Test) :
    Turned d (column.fragment d) (asked.fragment d column false) (asked.fragment d column true) ∨
      Turned d (column.fragment d) (asked.fragment d column true)
        (asked.fragment d column false) := by
  cases asked with
  | compare op value => exact turned_comparison d _ op value
  | like pattern negated =>
    have like : ("LIKE", "NOT LIKE") ∈ Sql.flippedOperators := by decide
    cases negated with
    | false => exact .inl (.operator like _)
    | true => exact .inr (.operator like _)
  | among values negated =>
    cases negated with
    | false => exact turned_membership d _ values
    | true => exact (turned_membership d _ values).symm
  | «matches» pattern negated =>
    cases negated with
    | false => cases d <;> exact .inl (.matching _)
    | true => cases d <;> exact .inr (.matching _)

end Test

/-! ## Clauses -/

namespace Clause

mutual
/-- The truth value of a clause for truth values of its leaves. -/
def truth (leaf : Fragment → Truth) : Clause → Truth
  | .leaf f => leaf f
  | .all parts => Truth.all (truths leaf parts)
  | .any parts => Truth.any (truths leaf parts)
  | .negation part => (part.truth leaf).not
/-- The truth values of clauses. -/
def truths (leaf : Fragment → Truth) : List Clause → List Truth
  | [] => []
  | c :: cs => c.truth leaf :: truths leaf cs
end

end Clause

namespace Predicate

open Sql (LeafTest)

mutual
/-- **The leaf tests of a predicate or of its negation** from left to right. -/
def leafTests (inverted : Bool) : Predicate → List LeafTest
  | .test column asked => [.test column asked inverted]
  | .constant holds => [.constant (holds != inverted)]
  | .all parts | .any parts => leafTestsAll parts
  | .negation part => part.leafTests (!inverted)
/-- The leaf tests of predicates from left to right. -/
def leafTestsAll : List Predicate → List LeafTest
  | [] => []
  | p :: ps => p.leafTests false ++ leafTestsAll ps
end

theorem length_clauses (d : Dialect) (ps : List Predicate) :
    (clauses d ps).length = ps.length := by
  induction ps with
  | nil => rfl
  | cons p ps ih => exact congrArg (· + 1) ih

variable {d : Dialect}

theorem truth_wrapped {leaf : Fragment → Truth} {c : Clause} {t : Truth} (h : c.truth leaf = t)
    (inverted : Bool) : (wrapped inverted c).truth leaf = if inverted then t.not else t := by
  cases inverted with
  | false => exact h
  | true => exact congrArg Truth.not h

mutual
/-- **The clause of a predicate means the predicate**, and the inverted clause its negation. -/
theorem truth_clause {leaf : Fragment → Truth} : ∀ {p : Predicate} {inverted : Bool},
    (∀ t ∈ p.leafTests inverted, t.Turns d leaf) →
    (p.clause d inverted).truth leaf =
      if inverted then (p.truth (Sql.valuation d leaf)).not else p.truth (Sql.valuation d leaf)
  | .test column asked, false, _ => rfl
  | .test column asked, true, turns => by
    have own := turns _ List.mem_cons_self
    rcases asked.turned_fragment d column with turned | turned
    · exact own _ _ turned
    · have back := own _ _ turned
      simp only [clause, Clause.truth, if_true, truth, Sql.valuation, back, Truth.not_not]
  | .constant holds, inverted, turns => by
    have own : leaf (.ofText "1 = 0") = _ := turns _ List.mem_cons_self
    cases holds <;> cases inverted <;>
      simp [clause, Clause.truth, truth, Sql.valuation, Fragment.ofBool, own]
  | .all parts, inverted, turns =>
    truth_wrapped (c := .all (clauses d parts)) (congrArg Truth.all (truths_clauses turns)) inverted
  | .any parts, inverted, turns =>
    truth_wrapped (c := .any (clauses d parts)) (congrArg Truth.any (truths_clauses turns)) inverted
  | .negation part, inverted, turns => by
    have own := @truth_clause leaf part (!inverted) turns
    cases inverted with
    | false => exact own
    | true => exact own.trans (Truth.not_not _).symm
theorem truths_clauses {leaf : Fragment → Truth} : ∀ {ps : List Predicate},
    (∀ t ∈ leafTestsAll ps, t.Turns d leaf) →
    Clause.truths leaf (clauses d ps) = truths (Sql.valuation d leaf) ps
  | [], _ => rfl
  | p :: ps, turns => by
    obtain ⟨own, rest⟩ := List.forall_mem_append.mp turns
    have first : (p.clause d false).truth leaf = p.truth (Sql.valuation d leaf) := truth_clause own
    rw [clauses, Clause.truths, truths, first, truths_clauses rest]
end

end Predicate

end RunFilter
