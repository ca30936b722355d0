import RunFilter.Command.Check
import RunFilter.Proofs.Joins.ContextTests
import RunFilter.Proofs.Parsing.Positions

/-!
# The excerpt under a mistake

Under a mistake in a query, the query is shown again and a caret below it. The place of a mistake
counts bytes and the column of the caret counts characters, so the caret is put behind as many
blanks as the query has characters in front of the place.

**The law** (`excerpt_points_iff`): whatever mistake reading a query or compiling it with any
settings reports, and so whatever a check reports for it (`reportedFor_of_run`), there is an
excerpt. It is the query, indented, and a line with a caret; counted from the beginning of the
query, the caret is in the column of the character at the place of the mistake, or right behind the
query if the mistake is at its end. The excerpt has one line more than the query. So it consists of
two lines that point at the mistake exactly if the query has no line break.

Blanks between tokens may be line breaks. `excerpt_of_two_lines` is a query of two lines: its
excerpt has three, and the caret stands far to the right of the line above it.
-/

set_option autoImplicit false

namespace RunFilter

/-! ## Failures of a sequence of steps -/

section
variable {ε ε' α β : Type}

theorem bind_eq_error {x : Except ε α} {f : α → Except ε β} {e : ε} :
    x >>= f = .error e ↔ x = .error e ∨ ∃ a, x = .ok a ∧ f a = .error e := by
  cases x <;> simp [bind, Except.bind]

theorem mapError_eq_error {x : Except ε α} {f : ε → ε'} {e : ε'} :
    x.mapError f = .error e ↔ ∃ e', x = .error e' ∧ f e' = e := by
  cases x <;> simp [Except.mapError]

end

/-! ## Lines -/

namespace Text

variable {separator : Char} {part cs : List Char}

theorem split_of_not_mem (none : separator ∉ cs) : split separator cs = [cs] := by
  induction cs with
  | nil => rfl
  | cons c cs ih =>
    rw [List.mem_cons, not_or] at none
    rw [split, if_neg (Ne.symm none.1), ih none.2]

/-- The first part ends at the first separator. -/
theorem split_append_cons (none : separator ∉ part) (cs : List Char) :
    split separator (part ++ separator :: cs) = part :: split separator cs := by
  induction part with
  | nil => rw [List.nil_append, split, if_pos rfl]
  | cons c part ih =>
    rw [List.mem_cons, not_or] at none
    rw [List.cons_append, split, if_neg (Ne.symm none.1), ih none.2]

/-- A text has one part more than it has separators. -/
theorem length_split (separator : Char) (cs : List Char) :
    (split separator cs).length = cs.count separator + 1 := by
  induction cs with
  | nil => rfl
  | cons c cs ih =>
    obtain ⟨part, parts, eq⟩ := split_eq_cons separator cs
    rw [eq] at ih
    rw [split, eq]
    split
    next same => rw [same, List.count_cons_self, List.length_cons, ih]
    next other =>
      rw [List.count_cons_of_ne other, ← ih]
      rfl

end Text

/-! ## Excerpts -/

namespace Excerpt

/-- A query as an excerpt shows it. -/
def indented (query : String) : List Char := ' ' :: ' ' :: query.toList

/-- A caret in a column. -/
def caretLine (column : Nat) : List Char := List.replicate column ' ' ++ ['^']

/-- **The column of a place**: the character of the shown query in the column is the one of the
query at the place, or the shown query ends in front of the column and the query at the place. -/
def IsColumnOf (query : String) (place column : Nat) : Prop :=
  ∃ before after, query.toList = before ++ after ∧ Text.byteLength before = place ∧
    (indented query)[column]? = after.head? ∧
    (after = [] → column = (indented query).length)

/-- **Two lines that point at a place**: the query, and a caret in the column of the place. -/
def PointsAt (query : String) (place : Nat) (shown : List Char) : Prop :=
  ∃ column, Text.split '\n' shown = [indented query, caretLine column] ∧
    IsColumnOf query place column

variable {query : String} {place column : Nat}

theorem isColumnOf_length {before after : List Char} (split : query.toList = before ++ after) :
    IsColumnOf query (Text.byteLength before) (before.length + 2) := by
  refine ⟨before, after, split, rfl, ?_, ?_⟩
  · rw [indented, split, List.getElem?_cons_succ, List.getElem?_cons_succ,
      List.getElem?_append_right (Nat.le_refl _), Nat.sub_self, List.head?_eq_getElem?]
  · rintro rfl
    rw [indented, split, List.append_nil, List.length_cons, List.length_cons]

theorem not_mem_caretLine (column : Nat) : '\n' ∉ caretLine column := by
  simp [caretLine]

/-- The lines of a query and of the caret below it. -/
theorem length_split_shown (query : String) (column : Nat) :
    (Text.split '\n' (indented query ++ '\n' :: caretLine column)).length =
      (Text.split '\n' query.toList).length + 1 := by
  have caret : (caretLine column).count '\n' = 0 :=
    List.count_eq_zero.mpr (not_mem_caretLine column)
  simp [Text.length_split, indented, List.count_append, caret]

/-- **The caret points at the place exactly if no line breaks off above it.** -/
theorem pointsAt_iff (points : IsColumnOf query place column) :
    PointsAt query place (indented query ++ '\n' :: caretLine column) ↔ '\n' ∉ query.toList := by
  constructor
  · rintro ⟨_, lines, _⟩
    have two := congrArg List.length lines
    rw [length_split_shown, Text.length_split, List.length_cons, List.length_cons,
      List.length_nil] at two
    exact List.count_eq_zero.mp (by omega)
  · intro unbroken
    have first : '\n' ∉ indented query := by simpa [indented] using unbroken
    exact ⟨column, by rw [Text.split_append_cons first,
      Text.split_of_not_mem (not_mem_caretLine column)], points⟩

end Excerpt

/-! ## Mistakes that are reported -/

namespace SyntaxError

variable {query : String} {e : SyntaxError} {before after : List Char}

/-- **A mistake that is reported for a query**, by reading it or by compiling it. -/
inductive ReportedFor (query : String) (e : SyntaxError) : Prop
  | read (failed : Filter.parse query = .error e)
  | compiled {settings : Settings} {c : Compiler} (made : Compiler.ofSettings settings = .ok c)
      (failed : c.compile query = .error e)

/-- Whatever is reported for a query stands in it. -/
theorem ReportedFor.standsIn (reported : e.ReportedFor query) :
    ∃ before after, e.StandsIn query before after := by
  have of_read (failed : Filter.parse query = .error e) :
      ∃ before after, e.StandsIn query before after := by
    obtain ⟨before, after, stands, _⟩ := Filter.placed_of_parse failed fun _ _ misread => misread
    exact ⟨before, after, stands⟩
  cases reported with
  | read failed => exact of_read failed
  | @compiled settings c made failed =>
    obtain unread | ⟨found, y, read, wrong, rfl⟩ := Compiler.compile_eq_error.mp failed
    · exact of_read unread
    · have same : c.settings = settings := by
        obtain ⟨_, _, _, _, _, _, rfl⟩ := Compiler.ofSettings_eq_ok.mp made
        rfl
      -- the default filter was checked with the settings, so the mistake is in the query
      rw [same, Compiler.withDefault_eq_error made] at wrong
      obtain ⟨f, rfl, wrong⟩ := wrong
      obtain ⟨before, after, stands, _⟩ := Filter.placed_of_refusedIn read
        (Filter.refusedIn_of_parse read (Resolution.ofFilter_eq_error.mp wrong))
      exact ⟨before, after, stands⟩

/-- A check reports what reading or compiling its query reports. -/
theorem reportedFor_of_run {o : Command.CheckOptions} {file : Option String}
    (failed : o.run file = .error (.query e)) : e.ReportedFor o.query := by
  unfold Command.CheckOptions.run at failed
  split at failed
  · obtain wrong | ⟨f, _, shown⟩ := bind_eq_error.mp failed
    · obtain ⟨e', read, same⟩ := mapError_eq_error.mp wrong
      cases same
      exact .read read
    · cases shown
  · obtain wrong | ⟨settings, _, failed⟩ := bind_eq_error.mp failed
    · obtain ⟨x, _, same⟩ := mapError_eq_error.mp wrong
      cases same
    obtain wrong | ⟨c, made, failed⟩ := bind_eq_error.mp failed
    · obtain ⟨x, _, same⟩ := mapError_eq_error.mp wrong
      cases same
    have made : Compiler.ofSettings settings = .ok c := mapError_eq_ok.mp made
    obtain wrong | ⟨q, _, shown⟩ := bind_eq_error.mp failed
    · obtain ⟨e', compiled, same⟩ := mapError_eq_error.mp wrong
      cases same
      exact .compiled made compiled
    · cases shown

/-- **The excerpt of a mistake that stands in a query.** -/
theorem StandsIn.excerpt (stands : e.StandsIn query before after) :
    ∃ shown, (Command.CommandError.query e).excerpt = some shown ∧
      shown.toList = Excerpt.indented query ++ '\n' :: Excerpt.caretLine (before.length + 2) := by
  have cut : Text.splitAt? e.offset e.statement.toList = some (before, after) := by
    rw [stands.statement, stands.split, ← stands.place, Text.splitAt?_append]
  refine ⟨_, by rw [Command.CommandError.excerpt, SyntaxError.excerpt, cut]; rfl, ?_⟩
  simp [stands.statement, Excerpt.indented, Excerpt.caretLine, List.replicate_succ]

/-- **The excerpt points at the mistake exactly in a query without line breaks.** For every mistake
that is reported for a query there is an excerpt: the query and a caret below it, in the column of
the place of the mistake, and so one line more than the query has. -/
theorem excerpt_points_iff (reported : e.ReportedFor query) :
    ∃ shown, (Command.CommandError.query e).excerpt = some shown ∧
      (∃ column, shown.toList = Excerpt.indented query ++ '\n' :: Excerpt.caretLine column ∧
        Excerpt.IsColumnOf query e.offset column) ∧
      (Text.split '\n' shown.toList).length = (Text.split '\n' query.toList).length + 1 ∧
      (Excerpt.PointsAt query e.offset shown.toList ↔ '\n' ∉ query.toList) := by
  obtain ⟨before, after, stands⟩ := reported.standsIn
  obtain ⟨shown, excerpt, lines⟩ := stands.excerpt
  have column : Excerpt.IsColumnOf query e.offset (before.length + 2) :=
    stands.place ▸ Excerpt.isColumnOf_length stands.split
  refine ⟨shown, excerpt, ⟨_, lines, column⟩, ?_, ?_⟩
  · rw [lines, Excerpt.length_split_shown]
  · rw [lines, Excerpt.pointsAt_iff column]

/-- A character of two bytes stands in front of the attribute that does not exist. -/
theorem excerpt_points_runTitle :
    let o : Command.CheckOptions :=
      { query := "'é' == run.title", settingsPath := none, dialect := none, select := false,
        readOnly := false }
    let shown := "  'é' == run.title\n         ^"
    ∃ e, o.run none = .error (.query e) ∧ e.offset = 8 ∧
      (Command.CommandError.query e).excerpt = some shown ∧
      Excerpt.PointsAt o.query e.offset shown.toList := by
  intro o shown
  have wrong : Filter.mistake? (o.run none) =
      some (.query (((Fault.unknownField "run" "title").at 8).inStatement o.query)) := by
    decide +kernel
  rw [Filter.mistake?_eq_some] at wrong
  have displayed : (Command.CommandError.query
      (((Fault.unknownField "run" "title").at 8).inStatement o.query)).excerpt = some shown := by
    decide +kernel
  obtain ⟨_, excerpt, _, _, points⟩ := excerpt_points_iff (reportedFor_of_run wrong)
  cases excerpt.symm.trans displayed
  exact ⟨_, wrong, rfl, displayed, points.mpr (by decide)⟩

/-- **A query of two lines**: the excerpt has three, and no caret in the line of the mistake. -/
theorem excerpt_of_two_lines :
    let query := "run.name ==\n= 1"
    let shown := "  run.name ==\n= 1\n              ^"
    ∃ e, Filter.parse query = .error e ∧ e.offset = 12 ∧
      (Command.CommandError.query e).excerpt = some shown ∧
      ¬ Excerpt.PointsAt query e.offset shown.toList := by
  intro query shown
  have wrong : Filter.mistake? (Filter.parse query) =
      some ((Fault.strayEquals.at 12).inStatement query) := by
    decide +kernel
  rw [Filter.mistake?_eq_some] at wrong
  refine ⟨_, wrong, rfl, by decide +kernel, ?_⟩
  rintro ⟨_, lines, _⟩
  have three : (Text.split '\n' shown.toList).length = 3 := by decide +kernel
  rw [lines] at three
  cases three

end SyntaxError

end RunFilter
