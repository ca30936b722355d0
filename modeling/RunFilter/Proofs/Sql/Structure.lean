import RunFilter.Proofs.Sql.Meaning

/-!
# The structure of written predicates

The predicates of filters have several parts in every connective. A predicate that is written on
its own may have connectives of one part, which leave no trace in the text. A connective of several
parts puts parentheses around the operands that have operators of their own, but a connective of one
part counts as an operand without operators, whatever the part is.

**The law** (`Predicate.text_keeps_structure`): the text of a predicate whose connectives have a
part has a reading with the leaf tests of the predicate, in their order, and it has no other one if
the columns are plain. If no disjunction stands as it is in a conjunction, the reading has the truth
value of the predicate, for all truth values of the leaf tests that turn round with the operators.

`splitDisjunction` is the case that is left: a disjunction that is the only part of a conjunction
inside a conjunction. It is written without parentheses, and `AND` takes one of its parts.
-/

set_option autoImplicit false

namespace RunFilter

namespace Predicate

variable {d : Dialect} {p : Predicate}

/-- The text of a predicate on plain columns has no other reading. -/
theorem eq_reading (filled : p.Filled) (plain : ∀ t ∈ p.leafTests false, t.Plain)
    {other : Sql.Disjunction} (text : other.fragment = p.fragment d)
    (leaves : other.Every (Sql.IsLeaf d)) : other = (p.clause d false).reading :=
  Sql.Disjunction.eq_of_fragment leaves (every_isLeaf_reading filled plain)
    (text.trans (p.clause d false).fragment_reading.symm)

/-- **The text of a predicate keeps its structure** where disjunctions are sheltered. -/
theorem text_keeps_structure (d : Dialect) {p : Predicate} (filled : p.Filled) :
    ∃ g : Sql.Disjunction, g.fragment = p.fragment d ∧
      g.leaves = (p.leafTests false).map (·.fragment d) ∧
      ((∀ t ∈ p.leafTests false, t.Plain) → ∀ other : Sql.Disjunction,
        other.fragment = p.fragment d → other.Every (Sql.IsLeaf d) → other = g) ∧
      ((p.clause d false).Sheltered → ∀ leaf, (∀ t ∈ p.leafTests false, t.Turns d leaf) →
        g.truth leaf = p.truth (Sql.valuation d leaf)) := by
  refine ⟨(p.clause d false).reading, Clause.fragment_reading _, leaves_reading filled,
    fun plain other text leaves => eq_reading filled plain text leaves,
    fun sheltered leaf turns => ?_⟩
  calc (p.clause d false).reading.truth leaf
      = (p.clause d false).truth leaf :=
        Clause.truth_reading leaf (filled_clause false filled) sheltered
    _ = p.truth (Sql.valuation d leaf) := truth_clause turns

/-- A disjunction beside a negated conjunction whose only part is a disjunction. -/
def namedOrNot : Predicate :=
  let named : Predicate := .test (.field "runs" "name") (.compare .equal (.text "a"))
  .all [.any [named, .constant false],
    .negation (.all [.any [.negation named, .constant false]])]

/-- Every disjunction of `namedOrNot` is in parentheses. -/
theorem text_keeps_structure_namedOrNot :
    namedOrNot.Filled ∧ namedOrNot.fragment .postgres =
        ⟨"(\"runs\".\"name\" = ? OR 1 = 0) AND NOT (\"runs\".\"name\" <> ? OR 1 = 0)",
          [.text "a", .text "a"]⟩ ∧
      ∃ g : Sql.Disjunction, g.fragment = namedOrNot.fragment .postgres ∧
        (∀ other : Sql.Disjunction, other.fragment = namedOrNot.fragment .postgres →
          other.Every (Sql.IsLeaf .postgres) → other = g) ∧
        ∀ leaf, (∀ t ∈ namedOrNot.leafTests false, t.Turns .postgres leaf) →
          g.truth leaf = namedOrNot.truth (Sql.valuation .postgres leaf) := by
  have filled : namedOrNot.Filled := by
    simp [namedOrNot, Filled, FilledAll]
  have name : (Column.field "runs" "name").Plain := by
    constructor <;> decide
  have plain : ∀ t ∈ namedOrNot.leafTests false, t.Plain := by
    simp [namedOrNot, leafTests, leafTestsAll, Sql.LeafTest.Plain, name]
  have sheltered : (namedOrNot.clause .postgres false).Sheltered := by
    simp [namedOrNot, clause, clauses, wrapped, Clause.Sheltered, Clause.ShelteredAll,
      Clause.isDisjunctive, Clause.isCompound]
  obtain ⟨g, text, _, alone, truth⟩ := text_keeps_structure .postgres filled
  exact ⟨filled, rfl, g, text, alone plain, truth sheltered⟩

end Predicate

/-! ## A disjunction without parentheses -/

namespace Sql

/-- What the constants say; every other leaf is unknown. -/
def constants (f : Fragment) : Truth :=
  if f = .ofText "1 = 1" then .yes else if f = .ofText "1 = 0" then .no else .unknown

theorem constants_of_params {f : Fragment} (h : f.params ≠ []) : constants f = .unknown := by
  have other : ∀ s, f ≠ .ofText s := by
    rintro s rfl
    exact h rfl
  rw [constants, if_neg (other _), if_neg (other _)]

theorem constants_of_last {f : Fragment} {s t : String} {c : Char} (sql : f.sql = s ++ t)
    (last : t.toList.getLast? = some c) (letter : c ≠ '1' ∧ c ≠ '0') : constants f = .unknown := by
  have ends : f.sql.toList.getLast? = some c := by
    rw [sql, String.toList_append, List.getLast?_append, last, Option.some_or]
  have other : ∀ s, s.toList.getLast? ≠ some c → f ≠ .ofText s := by
    rintro s ne rfl
    exact ne ends
  have yes : "1 = 1".toList.getLast? = some '1' := by decide
  have no : "1 = 0".toList.getLast? = some '0' := by decide
  rw [constants, if_neg (other _ _), if_neg (other _ _)]
  · rw [no]
    exact fun same => letter.2 (Option.some.inj same).symm
  · rw [yes]
    exact fun same => letter.1 (Option.some.inj same).symm

/-- An interpretation that knows nothing of rows. -/
def Interpretation.blind (d : Dialect) : Interpretation d where
  leaf := constants
  flipped := by
    intro f g flipped
    have marked : ∀ (column : Fragment) op value, constants (.ofTest column op value) = .unknown :=
      fun column op value => constants_of_params (by simp [Fragment.ofTest])
    cases flipped with
    | operator plain h value => rw [marked, marked, Truth.not]
    | null plain =>
      rw [constants_of_last (c := 'L') rfl (by decide) (by decide),
        constants_of_last (c := 'L') rfl (by decide) (by decide), Truth.not]
    | membership plain marks values =>
      rw [constants_of_last (c := ')') rfl (by decide) (by decide),
        constants_of_last (c := ')') rfl (by decide) (by decide), Truth.not]
    | matching plain value => rw [marked, marked, Truth.not]
    | constant => rfl

end Sql

namespace Predicate

/-- A disjunction that is the only part of a conjunction inside a conjunction. -/
def splitDisjunction : Predicate :=
  .all [.all [.any [.constant true, .constant false]], .constant false]

/-- **The disjunction of `splitDisjunction` is torn apart.** The text is read as a disjunction that
holds always; the predicate never holds. -/
theorem splitDisjunction_misread : splitDisjunction.Filled ∧ ∀ d : Dialect,
    splitDisjunction.fragment d = .ofText "1 = 1 OR 1 = 0 AND 1 = 0" ∧
    ∃ (I : Sql.Interpretation d) (g : Sql.Disjunction), g.fragment = splitDisjunction.fragment d ∧
      g.Every (Sql.IsLeaf d) ∧
      (∀ other : Sql.Disjunction, other.fragment = splitDisjunction.fragment d →
        other.Every (Sql.IsLeaf d) → other = g) ∧
      g.truth I.leaf = .yes ∧ splitDisjunction.truth I.valuation = .no := by
  have filled : splitDisjunction.Filled := by
    simp [splitDisjunction, Filled, FilledAll]
  have plain : ∀ t ∈ splitDisjunction.leafTests false, t.Plain := by
    simp [splitDisjunction, leafTests, leafTestsAll, Sql.LeafTest.Plain]
  refine ⟨filled, fun d => ⟨?_, .blind d, (splitDisjunction.clause d false).reading,
    Clause.fragment_reading _, every_isLeaf_reading filled plain,
    fun other text leaves => eq_reading filled plain text leaves, ?_, ?_⟩⟩
  · cases d <;> rfl
  · cases d <;> rfl
  · rfl

end Predicate

end RunFilter
