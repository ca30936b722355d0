import Mathlib.Data.List.Infix
import RunFilter.Proofs.Leaves
import RunFilter.Settings

/-!
# Tests of parts of texts

A filter asks whether a text contains, begins with or ends with another one, and the statement asks
it by a pattern of `LIKE`, in which `%` stands for any text, `_` for any one character and every
other character for itself. The pattern is the text with `%` behind it, in front of it or on both
sides; nothing in the text is marked as standing for itself.

**The law** (`textTest_exact_iff`): in every resolved filter, a text test asks whether something of
the form of its text stands in the place asked for (`TextTest.fits_pattern_iff`). It asks for the
text itself exactly if the text has neither `%` nor `_`.

`textTest_loose` is a text with `%` that is found where it does not stand.
-/

set_option autoImplicit false

namespace RunFilter

/-! ## Patterns of `LIKE` -/

namespace Like

/-- A character that does not stand for itself alone. -/
def isWildcard (c : Char) : Bool := c = '%' || c = '_'

/-- **Whether a text is of the form of a pattern.** -/
def fits : List Char → List Char → Bool
  | [], v => v.isEmpty
  | '%' :: p, v => v.tails.any (fits p)
  | _ :: _, [] => false
  | c :: p, d :: v => (c = '_' || c = d) && fits p v

theorem fits_percent_cons {p v : List Char} :
    fits ('%' :: p) v ↔ ∃ skipped rest, skipped ++ rest = v ∧ fits p rest := by
  rw [fits, List.any_eq_true]
  constructor
  · rintro ⟨rest, tail, fit⟩
    obtain ⟨skipped, whole⟩ := (List.mem_tails _ _).mp tail
    exact ⟨skipped, rest, whole, fit⟩
  · rintro ⟨skipped, rest, whole, fit⟩
    exact ⟨rest, (List.mem_tails _ _).mpr ⟨skipped, whole⟩, fit⟩

theorem fits_cons {c : Char} (one : c ≠ '%') {p v : List Char} :
    fits (c :: p) v ↔ ∃ d rest, d :: rest = v ∧ (c = '_' ∨ c = d) ∧ fits p rest := by
  cases v <;> simp [fits, and_assoc]

/-- `%` alone stands for any text. -/
theorem fits_percent (v : List Char) : fits ['%'] v :=
  fits_percent_cons.mpr ⟨v, [], List.append_nil v, rfl⟩

/-- **A text fits two patterns in a row** if it consists of two texts that fit them. -/
theorem fits_append {p q v : List Char} :
    fits (p ++ q) v ↔ ∃ front back, front ++ back = v ∧ fits p front ∧ fits q back := by
  induction p generalizing v with
  | nil => simp [fits]
  | cons c p ih =>
    rw [List.cons_append]
    by_cases percent : c = '%'
    · subst percent
      simp only [fits_percent_cons, ih]
      constructor
      · rintro ⟨skipped, _, rfl, front, back, rfl, first, second⟩
        exact ⟨skipped ++ front, back, List.append_assoc .., ⟨skipped, front, rfl, first⟩, second⟩
      · rintro ⟨_, back, rfl, ⟨skipped, front, rfl, first⟩, second⟩
        exact ⟨skipped, front ++ back, (List.append_assoc ..).symm, front, back, rfl, first, second⟩
    · simp only [fits_cons percent, ih]
      constructor
      · rintro ⟨d, _, rfl, same, front, back, rfl, first, second⟩
        exact ⟨d :: front, back, rfl, ⟨d, front, rfl, same, first⟩, second⟩
      · rintro ⟨_, back, rfl, ⟨d, front, rfl, same, first⟩, second⟩
        exact ⟨d, front ++ back, rfl, same, front, back, rfl, first, second⟩

/-- A pattern without wildcards stands for itself. -/
theorem fits_plain {s : List Char} (plain : s.all (!isWildcard ·)) {v : List Char} :
    fits s v ↔ v = s := by
  induction s generalizing v with
  | nil => exact List.isEmpty_iff
  | cons c s ih =>
    rw [List.all_cons, Bool.and_eq_true, isWildcard, Bool.not_eq_true', Bool.or_eq_false_iff] at plain
    obtain ⟨⟨percent, any⟩, rest⟩ := plain
    rw [fits_cons (of_decide_eq_false percent)]
    simp only [ih rest, of_decide_eq_false any, false_or]
    constructor
    · rintro ⟨_, _, rfl, rfl, rfl⟩
      rfl
    · rintro rfl
      exact ⟨c, s, rfl, rfl, rfl⟩

/-- A text of the form of a pattern that has no wildcards: `%` stands for nothing, and `_` for a
letter. -/
def sample : List Char → List Char
  | [] => []
  | c :: p => if c = '%' then sample p else (if c = '_' then 'a' else c) :: sample p

theorem fits_sample (p : List Char) : fits p (sample p) := by
  induction p with
  | nil => rfl
  | cons c p ih =>
    rw [sample]
    split
    next percent => exact percent ▸ fits_percent_cons.mpr ⟨[], sample p, rfl, ih⟩
    next one =>
      refine (fits_cons one).mpr ⟨_, _, rfl, ?_, ih⟩
      split
      next any => exact .inl any
      · exact .inr rfl

theorem sample_plain (p : List Char) : (sample p).all (!isWildcard ·) := by
  induction p with
  | nil => rfl
  | cons c p ih =>
    rw [sample]
    split
    · exact ih
    next one =>
      rw [List.all_cons, ih, Bool.and_true]
      split
      · rfl
      next other => simp [isWildcard, one, other]

end Like

/-! ## Text tests -/

/-- Where a text test looks for its text. -/
inductive TextTest where
  | contains
  | startsWith
  | endsWith
  deriving DecidableEq, Repr

namespace TextTest

/-- **The text test as it is written**: `s in receiver`, `receiver.startswith(s)` or
`receiver.endswith(s)`. -/
def filter (s : String) (receiver : Filter) (offset : Nat) : TextTest → Filter
  | contains => .comparison (.literal (.text s)) .among receiver offset
  | startsWith => .call .startsWith [receiver, .literal (.text s)] offset
  | endsWith => .call .endsWith [receiver, .literal (.text s)] offset

/-- The pattern that stands for a text test in a statement. -/
def pattern (s : String) : TextTest → String
  | contains => "%" ++ s ++ "%"
  | startsWith => s ++ "%"
  | endsWith => "%" ++ s

/-- **What a text test says**: that `part` stands in `whole`, in the place asked for. -/
def Holds (part whole : List Char) : TextTest → Prop
  | contains => part <:+: whole
  | startsWith => part <+: whole
  | endsWith => part <:+ whole

variable {k : TextTest} {s : String}

theorem holds_self (k : TextTest) (part : List Char) : k.Holds part part := by
  cases k with
  | contains => exact List.infix_rfl
  | startsWith => exact List.prefix_rfl
  | endsWith => exact List.suffix_rfl

/-- All text tests say that the text is contained. -/
theorem Holds.contained {part whole : List Char} (h : k.Holds part whole) : part <:+: whole := by
  cases k with
  | contains => exact h
  | startsWith => exact List.IsPrefix.isInfix h
  | endsWith => exact List.IsSuffix.isInfix h

/-- **A pattern fits where something of the form of its text stands.** -/
theorem fits_pattern_iff (k : TextTest) (s : String) (v : List Char) :
    Like.fits (k.pattern s).toList v ↔ ∃ part, Like.fits s.toList part ∧ k.Holds part v := by
  have percent : "%".toList = ['%'] := rfl
  cases k with
  | contains =>
    simp only [pattern, String.toList_append, percent, List.cons_append, List.nil_append,
      Like.fits_percent_cons, Like.fits_append, Like.fits_percent, and_true, Holds]
    constructor
    · rintro ⟨front, _, rfl, part, back, rfl, fit⟩
      exact ⟨part, fit, front, back, List.append_assoc ..⟩
    · rintro ⟨part, fit, front, back, rfl⟩
      exact ⟨front, part ++ back, (List.append_assoc ..).symm, part, back, rfl, fit⟩
  | startsWith =>
    simp only [pattern, String.toList_append, percent, Like.fits_append, Like.fits_percent,
      and_true, Holds]
    constructor
    · rintro ⟨part, back, rfl, fit⟩
      exact ⟨part, fit, back, rfl⟩
    · rintro ⟨part, fit, back, rfl⟩
      exact ⟨part, back, rfl, fit⟩
  | endsWith =>
    simp only [pattern, String.toList_append, percent, List.cons_append, List.nil_append,
      Like.fits_percent_cons, Holds]
    constructor
    · rintro ⟨front, part, rfl, fit⟩
      exact ⟨part, fit, front, rfl⟩
    · rintro ⟨part, fit, front, rfl⟩
      exact ⟨front, part, rfl, fit⟩

/-- **A pattern says what its test says exactly if the text has no wildcards.** With a wildcard it
fits a text without any, and that does not contain the text. -/
theorem fits_pattern_exact_iff (k : TextTest) (s : String) :
    (∀ v, Like.fits (k.pattern s).toList v ↔ k.Holds s.toList v) ↔
      s.toList.all (!Like.isWildcard ·) := by
  constructor
  · intro exact
    have found : k.Holds s.toList (Like.sample s.toList) := (exact _).mp
      ((fits_pattern_iff k s _).mpr ⟨_, Like.fits_sample _, k.holds_self _⟩)
    have plain := List.all_eq_true.mp (Like.sample_plain s.toList)
    exact List.all_eq_true.mpr fun c mem => plain c (found.contained.subset mem)
  · intro plain v
    simp only [fits_pattern_iff, Like.fits_plain plain, exists_eq_left]

/-- **A text test that passes the check** tests a text or a number by its pattern. -/
theorem condition_filter {tables : Dictionary} {receiver : Filter} {offset : Nat} {c : Condition}
    (h : (k.filter s receiver offset).condition tables = .ok c) :
    ∃ ref part, receiver.operand? tables offset = .ok (.column ref part) ∧
      c = .test ref part (.like (k.pattern s) false) := by
  have affixed : ∀ function pattern,
      Filter.affixCondition tables function offset receiver (.literal (.text s)) pattern = .ok c →
      ∃ ref part, receiver.operand? tables offset = .ok (.column ref part) ∧
        c = .test ref part (.like (pattern s) false) := by
    intro function pattern h
    obtain ⟨⟨ref, part⟩, found, h⟩ := bind_eq_ok.mp h
    cases h
    exact ⟨ref, part, Filter.subject_eq_ok.mp found, rfl⟩
  cases k with
  | contains =>
    obtain ⟨_, first, h⟩ := bind_eq_ok.mp h
    obtain ⟨operand, found, h⟩ := bind_eq_ok.mp h
    cases first
    have compared := mapError_eq_ok.mp h
    cases operand with
    | column ref part =>
      cases compared
      exact ⟨ref, part, found, rfl⟩
    | flag | step | constant | list => cases compared
  | startsWith => exact affixed .startsWith (· ++ "%") h
  | endsWith => exact affixed .endsWith ("%" ++ ·) h

end TextTest

namespace Resolution

/-- **A text test is exact if and only if its text has no wildcards.** Wherever a text test stands
in a resolved filter, its leaf is the test of the column by the pattern, with nothing but tests of a
context beside it. -/
theorem textTest_exact_iff (tables : Dictionary) (f : Filter) (r : Resolution)
    (accepted : ofFilter tables (some f) = .ok r) (place : List Nat) (k : TextTest) (s : String)
    (receiver : Filter) (offset : Nat) (written : f.at? place = some (k.filter s receiver offset)) :
    ∃ ref part leaf, receiver.operand? tables offset = .ok (.column ref part) ∧
      r.predicate.bind (·.at? place) = some leaf ∧
      Predicate.Carries (.test (part.columnIn (JoinTable.tableOf ⟨r.joins⟩ ref.origin))
        (.like (k.pattern s) false)) leaf ∧
      (∀ v, Like.fits (k.pattern s).toList v ↔
        ∃ found, Like.fits s.toList found ∧ k.Holds found v) ∧
      ((∀ v, Like.fits (k.pattern s).toList v ↔ k.Holds s.toList v) ↔
        s.toList.all (!Like.isWildcard ·)) := by
  obtain ⟨c, _, checked, _⟩ := exists_at?_of_ofFilter accepted written
  obtain ⟨ref, part, found, rfl⟩ := TextTest.condition_filter checked
  obtain ⟨leaf, stored, carries⟩ := exists_carries_of_ofFilter accepted written checked
  exact ⟨ref, part, leaf, found, stored, carries, TextTest.fits_pattern_iff k s,
    TextTest.fits_pattern_exact_iff k s⟩

/-- The name of a run. -/
def nameOfRun : Filter := .attribute ⟨"run", "name", none, none, 0⟩

/-- Active runs with a word in their names. -/
def activeBert : Filter :=
  .both (.attribute ⟨"run", "active", none, none, 0⟩) (TextTest.contains.filter "bert" nameOfRun 0)

/-- The second leaf of `activeBert` is for the names that contain the word. -/
theorem textTest_exact_activeBert :
    ∃ r, ofFilter Settings.standardTables (some activeBert) = .ok r ∧
      r.predicate.bind (·.at? [1]) = some (.test (.field "runs" "name") (.like "%bert%" false)) ∧
      ∀ v, Like.fits "%bert%".toList v ↔ "bert".toList <:+: v := by
  refine ⟨_, rfl, rfl, ?_⟩
  obtain ⟨_, _, _, _, _, _, _, exact⟩ := textTest_exact_iff Settings.standardTables activeBert _ rfl
    [1] .contains "bert" nameOfRun 0 rfl
  exact exact.mpr (by decide)

/-- **A text with `%` is found where it does not stand**: the pattern for names that contain `50%`
fits a name that does not. -/
theorem textTest_loose :
    ∃ r, ofFilter Settings.standardTables
        (some (TextTest.contains.filter "50%" nameOfRun 0)) = .ok r ∧
      r.predicate = some (.test (.field "runs" "name") (.like "%50%%" false)) ∧
      Like.fits "%50%%".toList "500 steps".toList ∧
      ¬ TextTest.contains.Holds "50%".toList "500 steps".toList :=
  ⟨_, rfl, rfl, by decide, show ¬ "50%".toList <:+: "500 steps".toList by decide⟩

end Resolution

end RunFilter
