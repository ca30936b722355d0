import Mathlib.Algebra.Group.Nat.Even
import RunFilter.Proofs.Sql.Draft
import RunFilter.Sql.Select

/-!
# Numbering a statement with any names

A statement begins with names in quotes and goes on with clauses. The marks of the clauses become
placeholders; the scan that does this runs over the whole statement and knows of single quotes
alone, so it reads the names as well.

**The law** (`Select.names_harmless_iff`): let every clause close its literals and have as many
marks outside of them as values. Then the statement is its header, as it is written, and behind it
the clauses with their values numbered from one, exactly if the names are harmless: read one after
the other, they have every `?` behind an odd number of single quotes, and they leave no literal open
in front of a clause with a `?`. For SQLite all names are harmless.

`column_numbered` is a name that is not, and takes the number of the first value.
-/

set_option autoImplicit false

namespace RunFilter

namespace Sql

/-! ## Scanning for literals -/

/-- **Whether a literal is open behind a text**, from whether one is open in front of it. -/
def endsQuoted (quoted : Bool) : List Char → Bool
  | [] => quoted
  | c :: cs => endsQuoted (if c = '\x27' then !quoted else quoted) cs

/-- A character that the scan stops at. -/
def isScanned (c : Char) : Bool := c = '\x27' || c = '?'

/-- Behind a text with an even number of single quotes, a literal is open if one was in front. -/
theorem endsQuoted_eq_iff (quoted : Bool) (cs : List Char) :
    endsQuoted quoted cs = quoted ↔ Even (cs.count '\x27') := by
  induction cs generalizing quoted with
  | nil => simp [endsQuoted]
  | cons c cs ih =>
    rw [endsQuoted]
    by_cases quote : c = '\x27'
    · have turned := ih !quoted
      subst quote
      rw [if_pos rfl, List.count_cons_self, Nat.even_add_one, ← turned]
      cases endsQuoted (!quoted) cs <;> cases quoted <;> decide
    · rw [if_neg quote, ih, List.count_cons_of_ne quote]

theorem marks_append (quoted : Bool) (cs ds : List Char) :
    marks quoted (cs ++ ds) = marks quoted cs + marks (endsQuoted quoted cs) ds := by
  induction cs generalizing quoted with
  | nil => simp [marks, endsQuoted]
  | cons c cs ih =>
    simp only [List.cons_append, marks, endsQuoted, ih]
    split_ifs <;> omega

theorem marks_filter (quoted : Bool) (cs : List Char) :
    marks quoted (cs.filter isScanned) = marks quoted cs := by
  induction cs generalizing quoted with
  | nil => rfl
  | cons c cs ih =>
    by_cases quote : c = '\x27'
    · simp [marks, isScanned, quote, ih]
    · by_cases mark : c = '?'
      · simp [marks, isScanned, mark, ih]
      · simp [marks, isScanned, quote, mark, ih]

theorem count_filter (cs : List Char) : (cs.filter isScanned).count '\x27' = cs.count '\x27' :=
  List.count_filter rfl

theorem numberFrom_append (d : Dialect) (index : Nat) (quoted : Bool) (cs ds : List Char) :
    numberFrom d index quoted (cs ++ ds) = numberFrom d index quoted cs ++
      numberFrom d (index + marks quoted cs) (endsQuoted quoted cs) ds := by
  induction cs generalizing index quoted with
  | nil => rfl
  | cons c cs ih =>
    simp only [List.cons_append, numberFrom, marks, endsQuoted]
    split_ifs
    · rw [ih, List.cons_append]
    · rw [ih, List.append_assoc, Nat.add_right_comm, Nat.add_assoc index]
    · rw [ih, List.cons_append]

/-- A text whose marks all stand in literals stays as it is. -/
theorem numberFrom_of_marks {quoted : Bool} {cs : List Char} (none : marks quoted cs = 0)
    (d : Dialect) (index : Nat) : numberFrom d index quoted cs = cs := by
  induction cs generalizing quoted with
  | nil => rfl
  | cons c cs ih =>
    rw [marks] at none
    rw [numberFrom]
    split at none
    next quote => rw [if_pos quote, ih none]
    next other =>
      split at none
      · cases none
      next clear => rw [if_neg other, if_neg clear, ih none]

theorem marks_of_not_mem {quoted : Bool} {cs : List Char} (unmarked : '?' ∉ cs) :
    marks quoted cs = 0 := by
  induction cs generalizing quoted with
  | nil => rfl
  | cons c cs ih =>
    obtain ⟨first, rest⟩ := not_or.mp (mt List.mem_cons.mpr unmarked)
    simp [marks, Ne.symm first, ih rest]

theorem numberFrom_sqlite (index : Nat) (quoted : Bool) (cs : List Char) :
    numberFrom .sqlite index quoted cs = cs := by
  induction cs generalizing index quoted with
  | nil => rfl
  | cons c cs ih =>
    rw [numberFrom, ih, ih, ih]
    split
    · rfl
    · split
      next mark =>
        rw [of_decide_eq_true (Bool.and_eq_true_iff.mp mark).1, Dialect.placeholder]
        rfl
      · rfl

/-- A placeholder of Postgres is no mark. -/
theorem head_placeholder (index : Nat) : ∃ digits,
    (Dialect.placeholder index .postgres).toList = '$' :: digits :=
  ⟨_, Draft.toList_placeholder index⟩

/-- **Postgres changes a text with a mark outside of literals**, whatever follows. -/
theorem marks_of_numberFrom {index : Nat} {quoted : Bool} {cs more more' : List Char}
    (h : numberFrom .postgres index quoted cs ++ more = cs ++ more') : marks quoted cs = 0 := by
  induction cs generalizing quoted with
  | nil => rfl
  | cons c cs ih =>
    rw [numberFrom] at h
    rw [marks]
    split at h
    next quote =>
      rw [if_pos quote]
      exact ih (List.cons.inj h).2
    next other =>
      split at h
      next mark =>
        obtain ⟨digits, eq⟩ := head_placeholder index
        rw [eq] at h
        obtain ⟨rfl, _⟩ := List.cons.inj h
        exact absurd mark (by cases quoted <;> decide)
      next clear =>
        rw [if_neg other, if_neg clear]
        exact ih (List.cons.inj h).2

/-! ## Values for the marks of a text -/

namespace Draft

/-- **A text with its values in the place of the marks outside of literals**, from left to
right. -/
def bound (quoted : Bool) : List Char → List Value → Draft
  | [], _ => []
  | c :: cs, vs =>
    if c = '\x27' then .char c :: bound (!quoted) cs vs
    else if c = '?' && !quoted then vs.head?.elim (.char c) .value :: bound quoted cs vs.tail
    else .char c :: bound quoted cs vs

theorem marked_bound (quoted : Bool) (cs : List Char) (vs : List Value) :
    marked (bound quoted cs vs) = cs := by
  induction cs generalizing quoted vs with
  | nil => rfl
  | cons c cs ih =>
    rw [bound]
    split
    · rw [marked, ih]
    · split
      next mark =>
        obtain ⟨rfl, _⟩ := Bool.and_eq_true_iff.mp mark |>.imp_left of_decide_eq_true
        cases vs with
        | nil => exact congrArg (List.cons '?') (ih quoted [])
        | cons v vs => exact congrArg (List.cons '?') (ih quoted vs)
      · rw [marked, ih]

variable {quoted : Bool} {cs : List Char} {vs : List Value}

/-- The first value stands for the first mark. -/
theorem exists_cons_of_marks (h : marks quoted cs + 1 = vs.length) :
    ∃ v rest, vs = v :: rest ∧ marks quoted cs = rest.length := by
  cases vs with
  | nil => cases h
  | cons v rest => exact ⟨v, rest, rfl, Nat.succ.inj h⟩

theorem values_bound (h : marks quoted cs = vs.length) : values (bound quoted cs vs) = vs := by
  induction cs generalizing quoted vs with
  | nil => exact (List.length_eq_zero_iff.mp h.symm).symm
  | cons c cs ih =>
    rw [marks] at h
    rw [bound]
    split at h
    next quote => rw [if_pos quote, values, ih h]
    next other =>
      split at h
      next mark =>
        obtain ⟨v, rest, rfl, fits⟩ := exists_cons_of_marks h
        rw [if_neg other, if_pos mark]
        exact congrArg (List.cons v) (ih fits)
      next clear => rw [if_neg other, if_neg clear, values, ih h]

/-- A text and the text behind it have their values one after the other. -/
theorem bound_append (h : marks quoted cs = vs.length) (ds : List Char) (more : List Value) :
    bound quoted (cs ++ ds) (vs ++ more) =
      bound quoted cs vs ++ bound (endsQuoted quoted cs) ds more := by
  induction cs generalizing quoted vs with
  | nil =>
    obtain rfl := List.length_eq_zero_iff.mp h.symm
    rfl
  | cons c cs ih =>
    rw [marks] at h
    rw [List.cons_append, bound, bound, endsQuoted]
    split at h
    next quote => rw [if_pos quote, if_pos quote, if_pos quote, ih h, List.cons_append]
    next other =>
      rw [if_neg other, if_neg other, if_neg other]
      split at h
      next mark =>
        obtain ⟨v, rest, rfl, fits⟩ := exists_cons_of_marks h
        rw [if_pos mark, if_pos mark]
        exact congrArg (Piece.value v :: ·) (ih fits)
      next clear => rw [if_neg clear, if_neg clear, ih h, List.cons_append]

/-- **Scanning a text numbers the values of its marks.** -/
theorem numberFrom_eq_numbered (d : Dialect) (h : marks quoted cs = vs.length) (index : Nat) :
    numberFrom d index quoted cs = numbered d index (bound quoted cs vs) := by
  induction cs generalizing quoted vs index with
  | nil => rfl
  | cons c cs ih =>
    rw [marks] at h
    rw [numberFrom, bound]
    split at h
    next quote => rw [if_pos quote, if_pos quote, numbered, ih h]
    next other =>
      rw [if_neg other, if_neg other]
      split at h
      next mark =>
        obtain ⟨v, rest, rfl, fits⟩ := exists_cons_of_marks h
        rw [if_pos mark, if_pos mark, ih fits]
        rfl
      next clear => rw [if_neg clear, if_neg clear, numbered, ih h]

/-- **A scan that starts on the wrong side of a quote** is right about a text only if the text has
no marks at all, in literals or not. -/
theorem not_mem_of_numberFrom (h : marks quoted cs = vs.length) {index index' : Nat}
    (same : numberFrom .postgres index (!quoted) cs =
      numbered .postgres index' (bound quoted cs vs)) : '?' ∉ cs := by
  induction cs generalizing quoted vs with
  | nil => exact List.not_mem_nil
  | cons c cs ih =>
    rw [marks] at h
    rw [numberFrom, bound] at same
    split at h
    next quote =>
      rw [if_pos quote, if_pos quote, numbered] at same
      rw [List.mem_cons, not_or]
      refine ⟨?_, ih h (List.cons.inj same).2⟩
      rw [quote]
      decide
    next other =>
      rw [if_neg other, if_neg other] at same
      by_cases mark : c = '?'
      · subst mark
        cases quoted with
        | false =>
          -- The mark stands for a value, and the scan takes it for a part of a literal.
          obtain ⟨v, rest, rfl, _⟩ := exists_cons_of_marks h
          obtain ⟨digits, eq⟩ := head_placeholder index'
          rw [if_neg (by decide), if_pos (by decide)] at same
          change '?' :: _ = (Dialect.placeholder index' .postgres).toList ++ _ at same
          rw [eq] at same
          exact absurd (List.cons.inj same).1 (by decide)
        | true =>
          -- The mark belongs to a literal, and the scan numbers it.
          obtain ⟨digits, eq⟩ := head_placeholder index
          rw [if_pos (by decide), if_neg (by decide), numbered, eq] at same
          exact absurd (List.cons.inj same).1 (by decide)
      · have clear : ∀ outside : Bool, ¬(decide (c = '?') && outside) = true := by
          simp [mark]
        rw [if_neg (clear _), if_neg (clear _), numbered] at same
        rw [if_neg (clear _)] at h
        rw [List.mem_cons, not_or]
        exact ⟨Ne.symm mark, ih h (List.cons.inj same).2⟩

end Draft

end Sql

/-! ## Clauses -/

open Sql (Draft)

/-- **A clause that closes its literals**, with a value for each of its marks outside of them. -/
structure Fragment.Matched (f : Fragment) : Prop where
  quotes : Even (f.sql.toList.count '\x27')
  marks : Sql.marks false f.sql.toList = f.params.length

/-- A clause with its values in their places. -/
def Fragment.pieces (f : Fragment) : Draft := Draft.bound false f.sql.toList f.params

namespace Fragment

/-- A text that the scan passes by, as a clause without values. -/
theorem matched_ofText {s : String} (h : s.toList.all (!Sql.isScanned ·) = true) :
    (ofText s).Matched := by
  have clear : s.toList.filter Sql.isScanned = [] := by
    rw [List.filter_eq_nil_iff]
    intro c mem
    simpa using List.all_eq_true.mp h c mem
  constructor
  · rw [ofText, ← Sql.count_filter, clear]
    exact Even.zero
  · rw [ofText, ← Sql.marks_filter, clear]
    rfl

/-- Clauses one behind the other have their values in order. -/
theorem pieces_flatMap {fs : List Fragment} (h : ∀ f ∈ fs, f.Matched) :
    Sql.marks false (fs.flatMap (·.sql.toList)) = (fs.flatMap (·.params)).length ∧
      fs.flatMap pieces =
        Draft.bound false (fs.flatMap (·.sql.toList)) (fs.flatMap (·.params)) := by
  induction fs with
  | nil => exact ⟨rfl, rfl⟩
  | cons f fs ih =>
    obtain ⟨first, rest⟩ := List.forall_mem_cons.mp h
    obtain ⟨marks, pieces_eq⟩ := ih rest
    have closed := (Sql.endsQuoted_eq_iff false _).mpr first.quotes
    simp only [List.flatMap_cons]
    rw [Sql.marks_append, Draft.bound_append first.marks, closed, List.length_append, marks,
      pieces_eq, first.marks]
    exact ⟨rfl, rfl⟩

end Fragment

/-! ## Statements -/

namespace Select

/-- **The header of a statement**: the columns and the table. -/
def header (s : Select) : String :=
  "SELECT " ++ s.columnList ++ " FROM " ++ Sql.quoteIdentifier s.table

/-- A condition, in parentheses if there are several. -/
def group (several : Bool) (f : Fragment) : List Fragment :=
  if several then [.ofText "(", f, .ofText ")"] else [f]

/-- Conditions and the texts between them. -/
def conditionClauses (several : Bool) : List Fragment → List Fragment
  | [] => []
  | f :: fs => .ofText " WHERE " :: group several f ++
    fs.flatMap fun f => .ofText " AND " :: group several f

/-- **What stands behind the header**: the joins and the conditions, and the texts between them. -/
def clauses (s : Select) : List Fragment :=
  s.joins.flatMap (fun f => [.ofText " ", f]) ++
    conditionClauses (1 < s.conditions.length) s.conditions

/-- The names of a statement one after the other: the columns, then the table. -/
def names (s : Select) : List Char := (s.columns ++ [s.table]).flatMap String.toList

/-- **Names that the scan passes by.** -/
structure NamesHarmless (s : Select) : Prop where
  marks : Sql.marks false s.names = 0
  quotes : Even (s.names.count '\x27') ∨ ∀ f ∈ s.joins ++ s.conditions, '?' ∉ f.sql.toList

variable {s : Select}

theorem intercalate_cons {α : Type} (separator part : List α) (parts : List (List α)) :
    separator.intercalate (part :: parts) = part ++ parts.flatMap (separator ++ ·) := by
  induction parts generalizing part with
  | nil => simp [List.intercalate]
  | cons next parts ih =>
    rw [List.intercalate_cons_cons, ih, List.flatMap_cons, List.append_assoc, List.append_assoc]

theorem toList_group (several : Bool) (f : Fragment) :
    (group several f).flatMap (·.sql.toList) = (if several then f.grouped else f).sql.toList := by
  unfold group
  split <;> simp [Fragment.grouped, Fragment.ofText]

theorem params_group (several : Bool) (f : Fragment) :
    (group several f).flatMap (·.params) = f.params := by
  unfold group
  split <;> simp [Fragment.ofText]

theorem toList_conditionText (s : Select) : s.conditionText.toList =
    (conditionClauses (1 < s.conditions.length) s.conditions).flatMap (·.sql.toList) := by
  have grouped : (if 1 < s.conditions.length then s.conditions.map Fragment.grouped
      else s.conditions) = s.conditions.map fun f =>
        if decide (1 < s.conditions.length) = true then f.grouped else f := by
    split <;> simp [*]
  rw [conditionText]
  simp only [grouped]
  generalize decide (1 < s.conditions.length) = several
  cases s.conditions with
  | nil => rfl
  | cons f fs =>
    simp only [Fragment.join, List.isEmpty_cons, Bool.false_eq_true, if_false, String.toList_append,
      String.toList_intercalate, List.map_map, List.map_cons, intercalate_cons, conditionClauses,
      List.flatMap_cons, List.flatMap_append, List.flatMap_assoc, List.flatMap_map,
      Function.comp_apply, toList_group, List.append_assoc]
    rfl

/-- A statement is its header and its clauses. -/
theorem unnumbered_eq (s : Select) :
    s.unnumbered.toList = s.header.toList ++ s.clauses.flatMap (·.sql.toList) := by
  have joins : (s.joins.map fun part => " " ++ part.sql).flatMap String.toList =
      (s.joins.flatMap fun f => [.ofText " ", f]).flatMap (·.sql.toList) := by
    simp [List.flatMap_assoc, List.flatMap_map, Fragment.ofText]
  rw [unnumbered, String.toList_append, String.toList_append, String.toList_join, joins, clauses,
    List.flatMap_append, List.append_assoc, toList_conditionText]
  rfl

/-- The values of a statement are those of its clauses. -/
theorem params_build (s : Select) : s.build.params = s.clauses.flatMap (·.params) := by
  have joins : (s.joins.flatMap fun f => [.ofText " ", f]).flatMap (·.params) =
      s.joins.flatMap (·.params) := by
    simp [List.flatMap_assoc, Fragment.ofText]
  have conditions : ∀ several, (conditionClauses several s.conditions).flatMap (·.params) =
      s.conditions.flatMap (·.params) := by
    intro several
    cases s.conditions with
    | nil => rfl
    | cons f fs =>
      simp [conditionClauses, List.flatMap_assoc, params_group, Fragment.ofText]
  rw [build, clauses, List.flatMap_append, joins, conditions]

/-- The text of a statement is the scan of its header and its clauses. -/
theorem sql_build (s : Select) : s.build.sql.toList =
    Sql.numberFrom s.dialect 1 false (s.header.toList ++ s.clauses.flatMap (·.sql.toList)) := by
  rw [build, Sql.numberPlaceholders, String.toList_ofList, unnumbered_eq]

/-- The joins and conditions stand in the statement. -/
theorem subset_clauses (s : Select) : s.joins ++ s.conditions ⊆ s.clauses := by
  have grouped : ∀ several f, f ∈ group several f := by
    intro several f
    unfold group
    split <;> simp
  rw [clauses, List.append_subset]
  constructor
  · exact fun f mem => List.mem_append_left _ (List.mem_flatMap.mpr ⟨f, mem, by simp⟩)
  · intro f mem
    refine List.mem_append_right _ ?_
    generalize decide (1 < s.conditions.length) = several
    revert mem
    cases s.conditions with
    | nil => exact fun mem => mem
    | cons g gs =>
      intro mem
      refine List.mem_cons_of_mem _ (List.mem_append.mpr ?_)
      rcases List.mem_cons.mp mem with rfl | mem
      · exact .inl (grouped several f)
      · exact .inr (List.mem_flatMap.mpr ⟨f, mem, List.mem_cons_of_mem _ (grouped several f)⟩)

/-- What holds of the joins and conditions, and of the texts between them, holds of all clauses. -/
theorem forall_clauses {P : Fragment → Prop}
    (between : ∀ t ∈ [" ", " WHERE ", " AND ", "(", ")"], P (.ofText t))
    (h : ∀ f ∈ s.joins ++ s.conditions, P f) : ∀ f ∈ s.clauses, P f := by
  simp only [List.forall_mem_cons] at between
  obtain ⟨blank, whereText, andText, opening, closing, _⟩ := between
  obtain ⟨joins, conditions⟩ := List.forall_mem_append.mp h
  have grouped : ∀ several f, P f → ∀ g ∈ group several f, P g := by
    intro several f own
    unfold group
    split <;> simp [own, opening, closing]
  refine List.forall_mem_append.mpr ⟨fun f mem => ?_, ?_⟩
  · obtain ⟨g, joined, mem⟩ := List.mem_flatMap.mp mem
    rcases List.mem_cons.mp mem with rfl | mem
    · exact blank
    · exact List.mem_singleton.mp mem ▸ joins g joined
  · generalize decide (1 < s.conditions.length) = several
    revert conditions
    cases s.conditions with
    | nil => exact fun _ _ mem => nomatch mem
    | cons g gs =>
      intro conditions
      obtain ⟨first, rest⟩ := List.forall_mem_cons.mp conditions
      refine List.forall_mem_cons.mpr ⟨whereText, List.forall_mem_append.mpr
        ⟨grouped several g first, fun f mem => ?_⟩⟩
      obtain ⟨g', stored, mem⟩ := List.mem_flatMap.mp mem
      rcases List.mem_cons.mp mem with rfl | mem
      · exact andText
      · exact grouped several g' (rest g' stored) f mem

/-- Quoting an identifier adds nothing that the scan stops at. -/
theorem filter_quoteIdentifier (name : String) :
    (Sql.quoteIdentifier name).toList.filter Sql.isScanned = name.toList.filter Sql.isScanned := by
  have doubled : ∀ cs, (Sql.doubleQuotes cs).filter Sql.isScanned = cs.filter Sql.isScanned := by
    intro cs
    induction cs with
    | nil => rfl
    | cons c cs ih =>
      rw [Sql.doubleQuotes]
      split
      next quote =>
        subst quote
        exact ih
      · rw [List.filter_cons, List.filter_cons, ih]
  rw [Sql.quoteIdentifier, String.toList_ofList, List.filter_append, List.filter_cons, doubled]
  exact List.append_nil _

/-- **The scan meets in a header what it meets in the names.** -/
theorem filter_header (s : Select) :
    s.header.toList.filter Sql.isScanned = s.names.filter Sql.isScanned := by
  have listed : s.columnList.toList.filter Sql.isScanned =
      (s.columns.flatMap String.toList).filter Sql.isScanned := by
    rw [columnList]
    cases s.columns with
    | nil => rfl
    | cons name names =>
      simp only [List.isEmpty_cons, Bool.false_eq_true, if_false, String.toList_intercalate,
        List.map_cons, intercalate_cons, List.filter_append, List.filter_flatMap, List.flatMap_map,
        List.flatMap_cons, filter_quoteIdentifier]
      rfl
  have start : "SELECT ".toList.filter Sql.isScanned = [] := by decide
  have middle : " FROM ".toList.filter Sql.isScanned = [] := by decide
  rw [header, names, List.flatMap_append, List.flatMap_singleton, List.filter_append, ← listed]
  simp only [String.toList_append, List.filter_append, filter_quoteIdentifier, start, middle,
    List.nil_append, List.append_nil]

/-- What stands behind the header, with the values in their places. -/
def pieces (s : Select) : Draft := s.clauses.flatMap Fragment.pieces

/-- **Names are harmless if the scan passes by the header**, and comes out of it without an open
literal or has no mark in front of it. -/
theorem namesHarmless_iff_header : s.NamesHarmless ↔
    Sql.marks false s.header.toList = 0 ∧
      (Sql.endsQuoted false s.header.toList = false ∨
        '?' ∉ s.clauses.flatMap (·.sql.toList)) := by
  have marks : Sql.marks false s.header.toList = Sql.marks false s.names := by
    rw [← Sql.marks_filter, filter_header, Sql.marks_filter]
  have quotes : Sql.endsQuoted false s.header.toList = false ↔ Even (s.names.count '\x27') := by
    rw [Sql.endsQuoted_eq_iff, ← Sql.count_filter, filter_header, Sql.count_filter]
  have unmarked : ('?' ∉ s.clauses.flatMap (·.sql.toList)) ↔
      ∀ f ∈ s.joins ++ s.conditions, '?' ∉ f.sql.toList := by
    constructor
    · exact fun h f mem inside => h (List.mem_flatMap.mpr ⟨f, subset_clauses s mem, inside⟩)
    · intro h inside
      obtain ⟨f, mem, inside⟩ := List.mem_flatMap.mp inside
      exact forall_clauses (P := fun f => '?' ∉ f.sql.toList) (by decide) h f mem inside
  rw [marks, quotes, unmarked]
  exact ⟨fun h => ⟨h.marks, h.quotes⟩, fun h => ⟨h.1, h.2⟩⟩

section Matched

variable (matched : ∀ f ∈ s.joins ++ s.conditions, f.Matched)

include matched

/-- All clauses of a statement have values for their marks if the joins and conditions have. -/
theorem matched_clauses : ∀ f ∈ s.clauses, f.Matched := by
  have passed : ∀ t ∈ [" ", " WHERE ", " AND ", "(", ")"],
      t.toList.all (!Sql.isScanned ·) = true := by decide
  exact forall_clauses (fun t mem => Fragment.matched_ofText (passed t mem)) matched

/-- The text behind the header has a mark for each value of the statement. -/
theorem marks_clauses :
    Sql.marks false (s.clauses.flatMap (·.sql.toList)) = s.build.params.length := by
  rw [params_build]
  exact (Fragment.pieces_flatMap (matched_clauses matched)).1

theorem pieces_eq_bound :
    s.pieces = Draft.bound false (s.clauses.flatMap (·.sql.toList)) s.build.params := by
  rw [params_build]
  exact (Fragment.pieces_flatMap (matched_clauses matched)).2

end Matched

/-- **Names are harmless exactly if the statement is its header and its numbered clauses.** -/
theorem names_harmless_iff (s : Select) (matched : ∀ f ∈ s.joins ++ s.conditions, f.Matched) :
    s.unnumbered.toList = s.header.toList ++ s.pieces.marked ∧
      s.build.params = s.pieces.values ∧
      (s.build.sql.toList = s.header.toList ++ s.pieces.numbered s.dialect 1 ↔
        (s.dialect = .postgres → s.NamesHarmless)) := by
  have marks := marks_clauses matched
  rw [pieces_eq_bound matched, Draft.marked_bound, Draft.values_bound marks,
    namesHarmless_iff_header]
  refine ⟨unnumbered_eq s, rfl, ?_⟩
  rw [sql_build]
  cases dialect : s.dialect with
  | sqlite =>
    rw [Sql.numberFrom_sqlite, Draft.numbered_sqlite, Draft.marked_bound]
    exact iff_of_true rfl nofun
  | postgres =>
    rw [Sql.numberFrom_append]
    constructor
    · intro same _
      have passed := Sql.marks_of_numberFrom same
      rw [Sql.numberFrom_of_marks passed, passed, List.append_cancel_left_eq] at same
      refine ⟨passed, ?_⟩
      cases ends : Sql.endsQuoted false s.header.toList with
      | false => exact .inl rfl
      | true => exact .inr (Draft.not_mem_of_numberFrom marks (ends ▸ same))
    · intro harmless
      obtain ⟨passed, closed | unmarked⟩ := harmless rfl
      · rw [Sql.numberFrom_of_marks passed, passed, closed,
          Draft.numberFrom_eq_numbered .postgres marks]
      · rw [Sql.numberFrom_of_marks passed, ← Draft.numberFrom_eq_numbered .postgres marks,
          Sql.numberFrom_of_marks (Sql.marks_of_not_mem unmarked),
          Sql.numberFrom_of_marks (Sql.marks_of_not_mem unmarked)]

/-- Names with a mark between two single quotes, and clauses with values. -/
def quotedMark : Select :=
  (((all .postgres "o'brien").column "what's?").join ⟨"JOIN t ON t.k = ?", [.text "k"]⟩).andWhere
    ⟨"x = '?' OR y < ?", [.int 1]⟩

/-- The names of `quotedMark` are harmless, so its two values have the numbers one and two. -/
theorem names_harmless_quotedMark :
    (∀ f ∈ quotedMark.joins ++ quotedMark.conditions, f.Matched) ∧ quotedMark.NamesHarmless ∧
      quotedMark.build.sql.toList = "SELECT \"what's?\" FROM \"o'brien\"".toList ++
        " JOIN t ON t.k = $1 WHERE x = '?' OR y < $2".toList ∧
      quotedMark.build.params = [.text "k", .int 1] := by
  have matched : ∀ f ∈ quotedMark.joins ++ quotedMark.conditions, f.Matched := by
    intro f mem
    rcases List.mem_cons.mp mem with rfl | mem
    · exact ⟨by decide, by decide⟩
    · obtain rfl := List.mem_singleton.mp mem
      exact ⟨by decide, by decide⟩
  have harmless : quotedMark.NamesHarmless := ⟨by decide, .inl (by decide)⟩
  obtain ⟨_, values, numbers⟩ := names_harmless_iff quotedMark matched
  exact ⟨matched, harmless, numbers.mpr fun _ => harmless, values⟩

/-- A column with a mark in its name. -/
def markedColumn : Select :=
  ((all .postgres "runs").column "a?b").andWhere ⟨"x = ?", [.int 1]⟩

/-- **The column of `markedColumn` takes the number of its value**, though the clause
has a value for its mark: another column is read, and nothing is bound to the second
placeholder. -/
theorem column_numbered :
    (∀ f ∈ markedColumn.joins ++ markedColumn.conditions, f.Matched) ∧
      markedColumn.build = ⟨"SELECT \"a$1b\" FROM \"runs\" WHERE x = $2", [.int 1]⟩ ∧
      markedColumn.build.sql.toList ≠
        markedColumn.header.toList ++ markedColumn.pieces.numbered .postgres 1 := by
  refine ⟨?_, by decide +kernel, by decide +kernel⟩
  intro f mem
  obtain rfl := List.mem_singleton.mp mem
  exact ⟨by decide, by decide⟩

end Select

end RunFilter
