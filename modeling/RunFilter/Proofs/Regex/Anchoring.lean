import RunFilter.Proofs.Leaves
import RunFilter.Proofs.Regex.Engine
import RunFilter.Proofs.Regex.Spans
import RunFilter.Settings

/-!
# Matching at the beginning

A filter asks whether a regular expression matches at the beginning of a text, and the statement
searches for the expression with `^` in front of it. The sign goes before the first item of the
text, so it belongs to the first alternative of the expression and to no other.

**The law** (`patternAtStart_iff`): where a regular expression is matched at the beginning, the text
with `^` in front is searched for. With any library that means by it what its manual says, the text
is found if the first alternative of the expression matches at the beginning or another one occurs
anywhere. So the search says what the filter asks exactly if the other alternatives occur only in
texts that the expression matches at the beginning. Where the library refuses the text with the sign
in front, the search fails.

The library of filters has such a meaning (`Regex.meaning`), by which `otherAlternative_found` is a
text that does not begin with what is asked for.
-/

set_option autoImplicit false

namespace RunFilter

namespace Regex

/-! ## Alternatives -/

namespace Pattern

variable {text : List Char} {i j : Nat}

theorem spans_sequence_iff (ps : List Pattern) :
    (sequence ps).Spans text i j ↔ TakesAll (Spans text) ps i j := by
  induction ps generalizing i with
  | nil => exact Iff.rfl
  | cons p ps ih =>
    cases ps with
    | nil => simp [sequence, TakesAll]
    | cons q qs => exact exists_congr fun k => and_congr_right fun _ => ih

theorem spans_choice (p : Pattern) (qs : List Pattern) :
    (choice p qs).Spans text i j ↔ p.Spans text i j ∨ ∃ q ∈ qs, q.Spans text i j := by
  induction qs generalizing p with
  | nil => simp [choice]
  | cons q qs ih => simp [choice, Spans, ih]

/-- Only the first place has nothing in front of it. -/
theorem spans_startOfText (le : i ≤ text.length) :
    (Pattern.assertion .startOfText).Spans text i j ↔ i = 0 ∧ j = 0 := by
  rw [Spans, Assertion.holds]
  cases i with
  | zero => simp [charBefore, eq_comm]
  | succ i =>
    have inside : i < text.length := le
    simp [charBefore, inside]

end Pattern

/-- A pattern leads where one of its alternatives does. -/
theorem Alternatives.spans_pattern (a : Alternatives) {text : List Char} {i j : Nat} :
    a.pattern.Spans text i j ↔
      ∃ items ∈ a.first :: a.others, TakesAll (Pattern.Spans text) items i j := by
  rw [pattern, Pattern.spans_choice]
  simp only [List.mem_map, exists_exists_and_eq_and, List.mem_cons, exists_eq_or_imp,
    Pattern.spans_sequence_iff]

/-! ## Reading behind `^` -/

/-- The marks of repetitions, which begin no regular expression. -/
def isRepetition (c : Char) : Bool := c = '?' || c = '*' || c = '+' || c = '\x7b'

theorem repeated_of_not_repetition {c : Char} {cs : List Char} (plain : isRepetition c = false)
    (fuel : Nat) (p : Pattern) : repeated {} fuel p (c :: cs) = some (p, c :: cs) := by
  simp only [isRepetition, Bool.or_eq_false_iff, decide_eq_false_iff_not] at plain
  obtain ⟨⟨⟨optional, any⟩, some⟩, brace⟩ := plain
  have none : repetition? {} (c :: cs) = Option.some (none, c :: cs) := by
    simp [repetition?, optional, any, some, brace]
  cases fuel with
  | zero => rfl
  | succ fuel => simp [repeated, Flags.skip, none]

/-- What is read as alternatives begins with no mark of a repetition. -/
theorem not_repetition_of_alternatives {fuel : Nat} {c : Char} {cs : List Char}
    {found : Alternatives × Place} (h : alternatives fuel ⟨{}, [], c :: cs⟩ = some found) :
    isRepetition c = false := by
  rw [Bool.eq_false_iff]
  intro mark
  simp only [isRepetition, Bool.or_eq_true, decide_eq_true_eq] at mark
  cases fuel with
  | zero => cases h
  | succ fuel => obtain ((rfl | rfl) | rfl) | rfl := mark <;> cases h

/-- **A regular expression behind `^`** is read as it is read alone, with the sign as its first
item. -/
theorem alternatives_anchored {fuel : Nat} {cs : List Char} {a : Alternatives} {place : Place}
    (h : alternatives fuel ⟨{}, [], cs⟩ = some (a, place)) :
    alternatives (fuel + 1) ⟨{}, [], '^' :: cs⟩ =
      some (a.cons (.assertion .startOfText), place) := by
  have sign : repeated {} cs.length (.assertion .startOfText) cs =
      some (.assertion .startOfText, cs) := by
    cases cs with
    | nil => rfl
    | cons c cs => exact repeated_of_not_repetition (not_repetition_of_alternatives h) _ _
  change ((repeated {} cs.length (.assertion .startOfText) cs).bind fun item =>
    (alternatives fuel ⟨{}, [], item.2⟩).bind fun rest =>
      some (rest.1.cons item.1, rest.2)) = _
  rw [sign, Option.bind_some, h]
  rfl

/-- The alternatives of a source, if it is read. -/
def alternativesOf (source : String) : Alternatives :=
  ((alternatives (source.toList.length + 1) ⟨{}, [], source.toList⟩).map (·.1)).getD {}

/-- **An expression is read from its source.** -/
theorem exists_alternatives (regex : Regex) :
    ∃ place, alternatives (regex.source.toList.length + 1) ⟨{}, [], regex.source.toList⟩ =
        some (alternativesOf regex.source, place) ∧
      regex.pattern = (alternativesOf regex.source).pattern := by
  obtain ⟨source, pattern, reads⟩ := regex
  obtain ⟨⟨a, place⟩, read, h⟩ := Option.bind_eq_some_iff.mp reads
  have same : alternativesOf source = a := by
    rw [alternativesOf, read]
    rfl
  dsimp only at h ⊢
  split at h
  · exact ⟨place, same ▸ read, same ▸ (Option.some.inj h).symm⟩
  · cases h

/-- **What the expressions of filters mean**: their items are patterns, which lead from place to
place. -/
def meaning : engine.Meaning Pattern where
  first regex := (alternativesOf regex.source).first
  others regex := (alternativesOf regex.source).others
  takes text := Pattern.Spans text.toList
  start := .assertion .startOfText
  takes_start {text i j} le := Pattern.spans_startOfText (String.length_toList ▸ le)
  isFoundIn_iff {regex text} := by
    obtain ⟨_, _, pattern⟩ := exists_alternatives regex
    change regex.pattern.isFoundIn text.toList = true ↔ _
    rw [Pattern.isFoundIn_iff, pattern, Pattern.OccursIn, String.length_toList]
    simp only [Alternatives.spans_pattern]
    constructor
    · rintro ⟨i, j, le, items, mem, taken⟩
      exact ⟨items, mem, i, j, le, taken⟩
    · rintro ⟨items, mem, i, j, le, taken⟩
      exact ⟨i, j, le, items, mem, taken⟩
  anchored {source regex behind} compiled compiled' := by
    obtain rfl := engine.source_of_compile compiled
    obtain ⟨place, read, _⟩ := exists_alternatives regex
    have read' := alternatives_anchored read
    have same : alternativesOf behind.source =
        (alternativesOf regex.source).cons (.assertion .startOfText) := by
      have source : behind.source = "^" ++ regex.source := engine.source_of_compile compiled'
      rw [source, alternativesOf, String.toList_append]
      exact congrArg (fun found => (found.map (·.1)).getD {}) read'
    rw [same]
    exact ⟨rfl, rfl⟩

/-- A walk from the first place finds out whether an expression matches there. -/
theorem meaning_matchesAtStart_iff {regex : Regex} {text : String} :
    meaning.MatchesAtStart regex text ↔ regex.pattern.startsIn text.toList := by
  obtain ⟨_, _, pattern⟩ := exists_alternatives regex
  rw [Pattern.startsIn_iff, pattern, Pattern.MatchesAtStart]
  simp only [Alternatives.spans_pattern]
  constructor
  · rintro ⟨items, mem, j, taken⟩
    exact ⟨j, items, mem, taken⟩
  · rintro ⟨j, items, mem, taken⟩
    exact ⟨items, mem, j, taken⟩

end Regex

/-! ## The law -/

/-- **A match that passes the check** searches a text or a number for the expression with `^` in
front. -/
theorem Filter.patternAtStart_of_condition {tables : Dictionary} {p : String} {subject : Filter}
    {offset : Nat} {c : Condition}
    (h : (Filter.call .patternAtStart [.literal (.text p), subject] offset).condition tables =
      .ok c) :
    ∃ ref part, subject.operand? tables offset = .ok (.column ref part) ∧
      c = .test ref part (.matches ("^" ++ p) false) := by
  change Filter.patternCondition tables .patternAtStart offset (.literal (.text p)) subject _ = _
    at h
  obtain ⟨⟨ref, part⟩, found, h⟩ := bind_eq_ok.mp h
  cases h
  exact ⟨ref, part, Filter.subject_eq_ok.mp found, rfl⟩

namespace Resolution

open Regex

/-- **Matching at the beginning is searching behind `^`**, and both are the same for a text exactly
if the other alternatives of the expression occur in it only where the expression matches at the
beginning. Where the library refuses the expression behind the sign, nothing is found, and both are
the same only for texts that the expression does not match. Wherever the match stands in a resolved
filter, its leaf is the search in the column, with nothing but tests of a context beside it. -/
theorem patternAtStart_iff {Expression Failure Item : Type} (engine : Engine Expression Failure)
    (meaning : engine.Meaning Item) (tables : Dictionary) (f : Filter) (r : Resolution)
    (accepted : ofFilter tables (some f) = .ok r) (place : List Nat) (p : String)
    (subject : Filter) (offset : Nat)
    (written : f.at? place = some (.call .patternAtStart [.literal (.text p), subject] offset))
    (expression : Expression) (valid : engine.compile p = .ok expression) :
    ∃ ref part leaf, subject.operand? tables offset = .ok (.column ref part) ∧
      r.predicate.bind (·.at? place) = some leaf ∧
      Predicate.Carries (.test (part.columnIn (JoinTable.tableOf ⟨r.joins⟩ ref.origin))
        (.matches ("^" ++ p) false)) leaf ∧
      (∀ anchored, engine.compile ("^" ++ p) = .ok anchored → ∀ v,
        (engine.search ("^" ++ p) v = .ok true ↔
          meaning.FirstMatchesAtStart expression v ∨ meaning.OtherOccursIn expression v) ∧
        ((engine.search ("^" ++ p) v = .ok true ↔ meaning.MatchesAtStart expression v) ↔
          (meaning.OtherOccursIn expression v → meaning.MatchesAtStart expression v))) ∧
      ∀ failure, engine.compile ("^" ++ p) = .error failure → ∀ v,
        engine.search ("^" ++ p) v = .error failure ∧
        ((engine.search ("^" ++ p) v = .ok true ↔ meaning.MatchesAtStart expression v) ↔
          ¬ meaning.MatchesAtStart expression v) := by
  obtain ⟨c, _, checked, _⟩ := exists_at?_of_ofFilter accepted written
  obtain ⟨ref, part, found, rfl⟩ := Filter.patternAtStart_of_condition checked
  obtain ⟨leaf, stored, carries⟩ := exists_carries_of_ofFilter accepted written checked
  refine ⟨ref, part, leaf, found, stored, carries, fun anchored compiled v => ?_,
    fun failure refused v => ?_⟩
  · rw [Engine.search_eq_true_iff compiled]
    exact ⟨meaning.isFoundIn_anchored valid compiled,
      meaning.isFoundIn_anchored_iff valid compiled⟩
  · have fails : engine.search ("^" ++ p) v = .error failure := Engine.search_of_error refused
    refine ⟨fails, ?_⟩
    rw [fails]
    simp only [reduceCtorEq, false_iff]

/-- Runs whose names begin as a regular expression says. -/
def named (p : String) : Filter :=
  .call .patternAtStart [.literal (.text p), .attribute ⟨"run", "name", none, none, 0⟩] 0

/-- An expression with one alternative is matched at the beginning, with the choice that stands in
its group. -/
theorem patternAtStart_oneAlternative :
    ∃ r regex, ofFilter Settings.standardTables (some (named "(tr|val)")) = .ok r ∧
      r.predicate = some (.test (.field "runs" "name") (.matches "^(tr|val)" false)) ∧
      Regex.engine.compile "(tr|val)" = .ok regex ∧
      ∀ v, Regex.engine.search "^(tr|val)" v = .ok true ↔ Regex.meaning.MatchesAtStart regex v := by
  have valid : (Regex.ofString? "(tr|val)").isSome := by decide +kernel
  have compiled : (Regex.ofString? ("^" ++ "(tr|val)")).isSome := by decide +kernel
  have single : (Regex.alternativesOf "(tr|val)").others = [] := by decide +kernel
  obtain ⟨regex, valid⟩ := Option.isSome_iff_exists.mp valid
  obtain ⟨anchored, compiled⟩ := Option.isSome_iff_exists.mp compiled
  rw [← Regex.toOption_compile, toOption_eq_some] at valid compiled
  obtain ⟨_, _, _, _, _, _, exact, _⟩ := patternAtStart_iff Regex.engine Regex.meaning
    Settings.standardTables (named "(tr|val)") _ rfl [] "(tr|val)" _ 0 rfl regex valid
  refine ⟨_, regex, rfl, rfl, valid, fun v => (exact anchored compiled v).2.mpr ?_⟩
  rintro ⟨items, mem, _⟩
  have source : regex.source = "(tr|val)" := Regex.engine.source_of_compile valid
  change items ∈ (Regex.alternativesOf regex.source).others at mem
  rw [source, single] at mem
  cases mem

/-- **The second alternative is found in the middle of a text**, though the filter asks for the
beginning. -/
theorem otherAlternative_found :
    ∃ r regex, ofFilter Settings.standardTables (some (named "tr|val")) = .ok r ∧
      r.predicate = some (.test (.field "runs" "name") (.matches "^tr|val" false)) ∧
      Regex.engine.compile "tr|val" = .ok regex ∧
      Regex.engine.search "^tr|val" "interval" = .ok true ∧
      ¬ Regex.meaning.MatchesAtStart regex "interval" := by
  have found : (Regex.search? "^tr|val" "interval") = some true := by decide +kernel
  have apart : (Regex.ofString? "tr|val").any
      (!·.pattern.startsIn "interval".toList) = true := by decide +kernel
  obtain ⟨regex, valid, apart⟩ := (Option.any_eq_true _ _).mp apart
  rw [← Regex.toOption_compile, toOption_eq_some] at valid
  rw [← Regex.toOption_search, toOption_eq_some] at found
  refine ⟨_, regex, rfl, rfl, valid, found, ?_⟩
  rw [Regex.meaning_matchesAtStart_iff]
  simpa using apart

end Resolution

end RunFilter
