import Mathlib.Data.List.Forall2
import RunFilter.Proofs.Sql.Draft
import RunFilter.Proofs.Sql.Reading

/-!
# Following a draft

Text and values of a condition are written side by side. Here every part of a condition or a join
gets a draft, where the values stand in the text, and the writer of the part is shown to follow it:
`Fragment.Follows` says that the text is the marked draft, that the values are those of the draft,
and that the draft is legible.

**The law** (`Predicate.follows`, `Join.follows`): conditions and joins whose names are identifiers
follow their drafts. A name that is an identifier is quiet, so all that a reader could stumble over
are the few texts that are written around names.
-/

set_option autoImplicit false

namespace RunFilter

open Sql (Draft)

/-! ## Drafts of the parts -/

namespace Sql.Draft

/-- Drafts with a separator between them. -/
def join (separator : String) : List Draft → Draft
  | [] => []
  | [l] => l
  | l :: ls => l ++ text separator ++ join separator ls

/-- A draft in parentheses. -/
def grouped (l : Draft) : Draft := text "(" ++ l ++ text ")"

/-- A draft in parentheses behind `NOT`. -/
def negated (l : Draft) : Draft := text "NOT (" ++ l ++ text ")"

/-- A column, an operator and a value. -/
def test (column : Draft) (operator : String) (value : Value) : Draft :=
  column ++ text (" " ++ operator ++ " ") ++ [.value value]

/-- A comparison; nothing is bound for `IS NULL`. -/
def comparison (column : Draft) (op : Operator) (value : Value) : Draft :=
  match value, op with
  | .null, .equal => column ++ text " IS NULL"
  | .null, .notEqual => column ++ text " IS NOT NULL"
  | value, op => column.test op.sql value

/-- Membership in a list; nothing is bound for the empty list. -/
def membership (column : Draft) (values : List Value) (negated : Bool) : Draft :=
  if values.isEmpty then text (if negated then "1 = 1" else "1 = 0")
  else
    let op := if negated then Operator.notAmong else .among
    column ++ text (" " ++ op.sql ++ " (") ++ join ", " (values.map fun v => [.value v]) ++ text ")"

/-- A text with values for its marks from left to right. -/
def filled : List Char → List Value → Draft
  | [], _ => []
  | cs, [] => cs.map .char
  | c :: cs, v :: vs =>
    if c = '?' then .value v :: filled cs vs else .char c :: filled cs (v :: vs)

end Sql.Draft

/-- **A column**, with the path into its document behind the operator. -/
def Column.draft (d : Dialect) : Column → Draft
  | .field table column =>
    Draft.text (Sql.quoteIdentifier table ++ "." ++ Sql.quoteIdentifier column)
  | .expression sql => Draft.text sql
  | .document table column path =>
    let document := Sql.quoteIdentifier table ++ "." ++ Sql.quoteIdentifier column
    Draft.text (d.documentTarget document ++ d.extractOperator) ++ [.value (.text (d.path path))]

/-- The left side of a match by a regular expression. -/
def Dialect.regexDraft (column : Draft) : Dialect → Draft
  | .postgres => column
  | .sqlite => Draft.text "IFNULL(" ++ column ++ Draft.text ", '')"

/-- **A test of a column, or its negation**, with its values. -/
def Test.draft (d : Dialect) (column : Column) (inverted : Bool) : Test → Draft
  | .compare op value => (column.draft d).comparison (if inverted then op.negated else op) value
  | .like pattern negated =>
    (column.draft d).test (Dialect.likeOperator (inverted != negated)) (.text pattern)
  | .among values negated => (column.draft d).membership values (inverted != negated)
  | .matches pattern negated =>
    (d.regexDraft (column.draft d)).test (d.regexOperator (inverted != negated)) (.text pattern)

namespace Predicate

mutual
/-- **A predicate, or its negation**, with the values in their tests. -/
def draft (d : Dialect) (inverted : Bool) : Predicate → Draft
  | .test column asked => asked.draft d column inverted
  | .constant holds => Draft.text (if holds != inverted then "1 = 1" else "1 = 0")
  | .all parts =>
    let inner := Draft.join " AND " (operandDrafts d (1 < parts.length) parts)
    if inverted then inner.negated else inner
  | .any parts =>
    let inner := Draft.join " OR " (operandDrafts d (1 < parts.length) parts)
    if inverted then inner.negated else inner
  | .negation part => part.draft d (!inverted)
/-- Operands; where there are several, those with operators of their own are grouped. -/
def operandDrafts (d : Dialect) (several : Bool) : List Predicate → List Draft
  | [] => []
  | p :: ps =>
    (if several && (p.clause d false).isCompound then (p.draft d false).grouped
      else p.draft d false) :: operandDrafts d several ps
end

end Predicate

/-- **A join** with its values. -/
def Join.draft (j : Join) : Draft := Draft.filled j.sql.toList j.params

/-- **The condition of a resolution** with its values; none if every row passes. -/
def Resolution.draft? (d : Dialect) (r : Resolution) : Option Draft :=
  if r.conjuncts.isEmpty then none else some ((Predicate.all r.conjuncts).draft d false)

/-! ## Quiet texts -/

namespace Sql

/-- A character that means nothing to a reader of placeholders. -/
def isQuiet (c : Char) : Bool := !(Draft.isMark c || c = '\x27')

/-- **A text that a reader of placeholders passes by.** -/
def Quiet (s : String) : Prop := ∀ c ∈ s.toList, isQuiet c = true

instance (s : String) : Decidable (Quiet s) :=
  decidable_of_iff (s.toList.all isQuiet = true) List.all_eq_true

theorem Quiet.append {s t : String} (hs : Quiet s) (ht : Quiet t) : Quiet (s ++ t) := by
  intro c mem
  rw [String.toList_append, List.mem_append] at mem
  exact mem.elim (hs c) (ht c)

theorem isQuiet_of_isNamePart {c : Char} (h : Text.isNamePart c = true) : isQuiet c = true := by
  rw [isQuiet, Draft.isMark, Bool.not_eq_true', ← Bool.not_eq_true]
  simp only [Bool.or_eq_true, decide_eq_true_eq]
  rintro ((rfl | rfl) | rfl) <;> exact absurd h (by decide)

theorem isNamePart_of_mem {s : String} (h : Text.isIdentifier s = true) :
    ∀ c ∈ s.toList, Text.isNamePart c = true := by
  intro c mem
  unfold Text.isIdentifier at h
  split at h
  · cases h
  next first rest chars =>
    obtain ⟨start, parts⟩ := Bool.and_eq_true_iff.mp h
    rw [chars] at mem
    rcases List.mem_cons.mp mem with rfl | mem
    · exact Bool.or_eq_true_iff.mpr (.inl start)
    · exact List.all_eq_true.mp parts c mem

theorem quiet_of_isIdentifier {s : String} (h : Text.isIdentifier s = true) : Quiet s :=
  fun c mem => isQuiet_of_isNamePart (isNamePart_of_mem h c mem)

theorem eq_quote_of_mem_doubleQuotes {c : Char} {cs : List Char} (h : c ∈ doubleQuotes cs) :
    c ∈ cs ∨ c = '"' := by
  induction cs with
  | nil => cases h
  | cons first cs ih =>
    rw [doubleQuotes] at h
    split at h
    · rcases List.mem_cons.mp h with rfl | h
      · exact .inr rfl
      · rcases List.mem_cons.mp h with rfl | h
        · exact .inr rfl
        · exact (ih h).imp_left (List.mem_cons_of_mem first)
    · rcases List.mem_cons.mp h with rfl | h
      · exact .inl List.mem_cons_self
      · exact (ih h).imp_left (List.mem_cons_of_mem first)

/-- A quoted identifier has the characters of the identifier, and quotes. -/
theorem mem_quoteIdentifier {s : String} (h : Text.isIdentifier s = true) :
    ∀ c ∈ (quoteIdentifier s).toList, Text.isNamePart c = true ∨ c = '"' := by
  intro c mem
  rw [quoteIdentifier, String.toList_ofList] at mem
  rcases List.mem_append.mp mem with mem | mem
  · rcases List.mem_cons.mp mem with rfl | mem
    · exact .inr rfl
    · exact (eq_quote_of_mem_doubleQuotes mem).imp_left (isNamePart_of_mem h c)
  · exact .inr (List.mem_singleton.mp mem)

theorem quiet_quoteIdentifier {s : String} (h : Text.isIdentifier s = true) :
    Quiet (quoteIdentifier s) := by
  intro c mem
  rcases mem_quoteIdentifier h c mem with part | rfl
  · exact isQuiet_of_isNamePart part
  · rfl

theorem quiet_intercalate {separator : String} (hs : Quiet separator) {texts : List String}
    (h : ∀ s ∈ texts, Quiet s) : Quiet (String.intercalate separator texts) := by
  induction texts with
  | nil => exact fun c mem => (nomatch mem)
  | cons s texts ih =>
    obtain ⟨first, rest⟩ := List.forall_mem_cons.mp h
    cases texts with
    | nil => rwa [String.intercalate_singleton]
    | cons t texts =>
      rw [String.intercalate_cons_cons]
      exact (first.append hs).append (ih rest)

namespace Draft

theorem read_quiet {s : String} (h : Quiet s) : read .free (text s) = some .free := by
  unfold Quiet at h
  unfold text
  generalize s.toList = cs at h ⊢
  induction cs with
  | nil => rfl
  | cons c cs ih =>
    obtain ⟨first, rest⟩ := List.forall_mem_cons.mp h
    rw [isQuiet, Bool.not_eq_true', Bool.or_eq_false_iff, decide_eq_false_iff_not] at first
    have next : step .free (.char c) = some .free := by
      rw [step, first.1, if_neg first.2]
      rfl
    rw [List.map_cons, read, List.foldlM_cons, next]
    exact ih rest

/-- **A text that parts two readings**: wherever a reader outside of literals meets it, the reader
leaves it outside of literals, and not right behind a value. -/
def Parts (s : String) : Prop := ∀ stop, stop ≠ .quoted → read stop (text s) = some .free

instance (s : String) : Decidable (Parts s) :=
  decidable_of_iff (read .free (text s) = some .free ∧ read .behind (text s) = some .free)
    ⟨fun h stop outside => by cases stop <;> simp_all, fun h => ⟨h _ (by decide), h _ (by decide)⟩⟩

end Draft

end Sql

/-! ## Following a draft -/

namespace Fragment

open Sql.Draft (Parts text marked values read marked_append values_append marked_text values_text
  read_append read_quiet)

/-- **A piece that follows a draft**: its text is the marked draft, its values are the values of the
draft, and the draft is legible. -/
structure Follows (f : Fragment) (l : Draft) : Prop where
  sql : f.sql.toList = l.marked
  params : f.params = l.values
  legible : ∃ stop, stop ≠ .quoted ∧ read .free l = some stop

namespace Follows

variable {f g : Fragment} {l m : Draft}

theorem ofText {s : String} (h : read .free (text s) = some .free) :
    (Fragment.ofText s).Follows (text s) where
  sql := (marked_text s).symm
  params := (values_text s).symm
  legible := ⟨.free, by decide, h⟩

theorem ofQuiet {s : String} (h : Sql.Quiet s) : (Fragment.ofText s).Follows (text s) :=
  ofText (read_quiet h)

theorem marked {s : String} (h : read .free (text s) = some .free) (v : Value) :
    (Fragment.mk (s ++ "?") [v]).Follows (text s ++ [.value v]) where
  sql := by
    rw [String.toList_append, String.toList_ofList, marked_append, marked_text]
    rfl
  params := by
    rw [values_append, values_text]
    rfl
  legible := ⟨.behind, by decide, read_append h⟩

theorem mark (v : Value) : (Fragment.mk "?" [v]).Follows [.value v] where
  sql := String.toList_ofList
  params := rfl
  legible := ⟨.behind, by decide, rfl⟩

theorem beside (h : f.Follows l) {separator : String} (parts : Parts separator)
    (h' : g.Follows m) : (f.beside separator g).Follows (l ++ text separator ++ m) where
  sql := by
    rw [Fragment.beside, String.toList_append, String.toList_append, h.sql, h'.sql, marked_append,
      marked_append, marked_text]
  params := by
    rw [Fragment.beside, h.params, h'.params, values_append, values_append, values_text,
      List.append_nil]
  legible := by
    obtain ⟨stop, outside, left⟩ := h.legible
    obtain ⟨stop', outside', right⟩ := h'.legible
    refine ⟨stop', outside', ?_⟩
    rw [List.append_assoc, read_append left, read_append (parts stop outside), right]

theorem enclosed (h : f.Follows l) (opening closing : String)
    (opens : read .free (text opening) = some .free) (parts : Parts closing) :
    (Fragment.mk (opening ++ f.sql ++ closing) f.params).Follows
      (text opening ++ l ++ text closing) where
  sql := by
    rw [String.toList_append, String.toList_append, h.sql, marked_append, marked_append,
      marked_text, marked_text]
  params := by
    rw [h.params, values_append, values_append, values_text, values_text, List.append_nil]
    rfl
  legible := by
    obtain ⟨stop, outside, inner⟩ := h.legible
    refine ⟨.free, by decide, ?_⟩
    rw [List.append_assoc, read_append opens, read_append inner, parts stop outside]

theorem followed (h : f.Follows l) {closing : String} (parts : Parts closing) :
    (Fragment.mk (f.sql ++ closing) f.params).Follows (l ++ text closing) := by
  have whole := h.beside parts (ofText (s := "") rfl)
  rw [Fragment.beside, Fragment.ofText, String.append_empty, List.append_nil] at whole
  rwa [show text "" = [] from rfl, List.append_nil] at whole

theorem count (h : f.Follows l) : f.sql.toList.count '?' = f.params.length := by
  obtain ⟨stop, _, legible⟩ := h.legible
  rw [h.sql, h.params, Draft.count_marked legible]

theorem marks (h : f.Follows l) : Sql.marks false f.sql.toList = f.params.length := by
  obtain ⟨stop, _, legible⟩ := h.legible
  rw [h.sql, h.params]
  exact Draft.marks_marked legible

theorem grouped (h : f.Follows l) : f.grouped.Follows l.grouped :=
  h.enclosed "(" ")" rfl (by decide)

theorem negated (h : f.Follows l) : f.negated.Follows l.negated :=
  h.enclosed "NOT (" ")" rfl (by decide)

theorem join {separator : String} (parts : Parts separator) {fs : List Fragment} {ls : List Draft}
    (h : List.Forall₂ Follows fs ls) :
    (Fragment.join separator fs).Follows (Draft.join separator ls) := by
  induction h with
  | nil => exact ofText (s := "") rfl
  | cons first rest ih =>
    cases rest with
    | nil =>
      rw [join_singleton]
      exact first
    | cons next rest =>
      rw [join_cons]
      exact first.beside parts ih

theorem ofTest (h : f.Follows l) {operator : String} (parts : Parts (" " ++ operator ++ " "))
    (value : Value) : (Fragment.ofTest f operator value).Follows (l.test operator value) := by
  have marked := h.beside parts (mark value)
  have same : f.sql ++ (" " ++ operator ++ " ") ++ "?" = f.sql ++ " " ++ operator ++ " ?" := by
    simp only [String.append_assoc]
    rfl
  rw [Fragment.beside, same] at marked
  exact marked

theorem ofBool (holds : Bool) :
    (Fragment.ofBool holds).Follows (text (if holds then "1 = 1" else "1 = 0")) := by
  cases holds <;> exact ofQuiet (by decide)

end Follows

end Fragment

/-! ## Columns and tests -/

namespace Column

variable {d : Dialect} {column : Column}

/-- A field of a table is quiet. -/
theorem quiet_field {table column : String} (table_ok : Text.isIdentifier table = true)
    (column_ok : Text.isIdentifier column = true) :
    Sql.Quiet (Sql.quoteIdentifier table ++ "." ++ Sql.quoteIdentifier column) :=
  ((Sql.quiet_quoteIdentifier table_ok).append (by decide)).append
    (Sql.quiet_quoteIdentifier column_ok)

/-- The document of a field is read without a literal left open. -/
theorem read_document (d : Dialect) {field : String} (quiet : Sql.Quiet field) :
    Draft.read .free (Draft.text (d.documentTarget field ++ d.extractOperator)) = some .free := by
  cases d with
  | postgres => exact Draft.read_quiet (quiet.append (by decide))
  | sqlite =>
    have behind : Draft.Parts (", JSON('\x7b\x7d'))" ++ "->>") := by decide
    have opening : Sql.Quiet ("IFNULL(" ++ field) := Sql.Quiet.append (by decide) quiet
    rw [Dialect.documentTarget, Dialect.extractOperator, String.append_assoc, Draft.text_append,
      Draft.read_append (Draft.read_quiet opening)]
    exact behind .free (by decide)

/-- **A plain column follows its draft.** -/
theorem follows (plain : column.Plain) : (column.fragment d).Follows (column.draft d) := by
  cases column with
  | field table column => exact .ofQuiet (quiet_field plain.1 plain.2)
  | expression sql =>
    obtain ⟨table, table_ok, rfl⟩ := plain
    have named := Sql.quiet_of_isIdentifier table_ok
    have opening : Sql.Quiet ("(" ++ table ++ ".end_time - " ++ table) :=
      ((Sql.Quiet.append (by decide) named).append (by decide)).append named
    exact .ofQuiet (opening.append (by decide))
  | document table column path =>
    exact .marked (read_document d (quiet_field plain.1 plain.2)) (.text (d.path path))

end Column

namespace Test

open Fragment (Follows)

variable {d : Dialect} {f : Fragment} {l : Draft}

theorem follows_comparison (h : f.Follows l) (op : Operator) (value : Value) :
    (comparison f op value).Follows (l.comparison op value) := by
  have parts : Draft.Parts (" " ++ op.sql ++ " ") := by cases op <;> decide
  cases value with
  | null =>
    cases op with
    | equal => exact h.followed (by decide)
    | notEqual => exact h.followed (by decide)
    | less | greater | lessEqual | greaterEqual | among | notAmong => exact h.ofTest parts .null
  | bool | int | float | text => exact h.ofTest parts _

theorem follows_membership (h : f.Follows l) (values : List Value) (negated : Bool) :
    (membership f values negated).Follows (l.membership values negated) := by
  unfold membership Draft.membership
  by_cases empty : values.isEmpty
  · rw [if_pos empty, if_pos empty]
    exact .ofBool negated
  · rw [if_neg empty, if_neg empty]
    have joined : Fragment.join ", " (values.map fun v => ⟨"?", [v]⟩) =
        ⟨String.intercalate ", " (values.map fun _ => "?"), values⟩ := by
      rw [Fragment.join, List.map_map, List.flatMap_map, List.flatMap_singleton']
      rfl
    have marks : (Fragment.join ", " (values.map fun v => ⟨"?", [v]⟩)).Follows
        (Draft.join ", " (values.map fun v => [.value v])) := by
      refine .join (by decide) ?_
      rw [List.forall₂_map_left_iff, List.forall₂_map_right_iff]
      exact List.forall₂_same.mpr fun v _ => .mark v
    have parts :
        Draft.Parts (" " ++ (if negated then Operator.notAmong else .among).sql ++ " (") := by
      cases negated <;> decide
    have whole := (h.beside parts (joined ▸ marks)).followed (show Draft.Parts ")" by decide)
    simp only [Fragment.beside, ← String.append_assoc] at whole
    exact whole

/-- **A test of a plain column follows its draft**, inverted or not. -/
theorem follows {column : Column} (plain : column.Plain) (inverted : Bool) (asked : Test) :
    (asked.fragment d column inverted).Follows (asked.draft d column inverted) := by
  have target := column.follows (d := d) plain
  cases asked with
  | compare op value => exact follows_comparison target _ value
  | like pattern negated =>
    refine target.ofTest ?_ _
    cases inverted != negated <;> decide
  | among values negated => exact follows_membership target values _
  | «matches» pattern negated =>
    cases d with
    | postgres =>
      refine target.ofTest ?_ _
      cases inverted != negated <;> decide
    | sqlite =>
      refine (target.enclosed "IFNULL(" ", '')" rfl (by decide)).ofTest ?_ _
      cases inverted != negated <;> decide

end Test

/-! ## Predicates and joins -/

namespace Predicate

open Fragment (Follows)

theorem follows_wrapped {c : Clause} {l : Draft} (h : c.fragment.Follows l) (inverted : Bool) :
    (wrapped inverted c).fragment.Follows (if inverted then l.negated else l) := by
  cases inverted with
  | false => exact h
  | true => exact h.negated

theorem follows_all {d : Dialect} {ps : List Predicate}
    (h : ∀ several, List.Forall₂ Follows (Clause.operands several (clauses d ps))
      (operandDrafts d several ps)) :
    (Clause.all (clauses d ps)).fragment.Follows
      (Draft.join " AND " (operandDrafts d (1 < ps.length) ps)) := by
  rw [Clause.fragment, length_clauses]
  exact .join (by decide) (h _)

theorem follows_any {d : Dialect} {ps : List Predicate}
    (h : ∀ several, List.Forall₂ Follows (Clause.operands several (clauses d ps))
      (operandDrafts d several ps)) :
    (Clause.any (clauses d ps)).fragment.Follows
      (Draft.join " OR " (operandDrafts d (1 < ps.length) ps)) := by
  rw [Clause.fragment, length_clauses]
  exact .join (by decide) (h _)

mutual
/-- **A well-formed predicate follows its draft**, inverted or not. -/
theorem follows (d : Dialect) : ∀ {p : Predicate} (inverted : Bool), p.WellFormed →
    (p.clause d inverted).fragment.Follows (p.draft d inverted)
  | .test _ asked, inverted, h => Test.follows h inverted asked
  | .constant _, _, _ => .ofBool _
  | .all _, inverted, h =>
    follows_wrapped (follows_all fun several => follows_operands d several h.2) inverted
  | .any _, inverted, h =>
    follows_wrapped (follows_any fun several => follows_operands d several h.2) inverted
  | .negation part, inverted, h => follows d (p := part) (!inverted) h
theorem follows_operands (d : Dialect) (several : Bool) : ∀ {ps : List Predicate},
    WellFormedAll ps →
    List.Forall₂ Follows (Clause.operands several (clauses d ps)) (operandDrafts d several ps)
  | [], _ => .nil
  | p :: ps, h => by
    have first := follows d (p := p) false h.1
    refine .cons ?_ (follows_operands d several h.2)
    split
    · exact first.grouped
    · exact first
end

end Predicate

namespace Join

theorem filled_quiet {cs : List Char} (h : ∀ c ∈ cs, Sql.isQuiet c = true) (v : Value) :
    Draft.filled (cs ++ ['?']) [v] = cs.map .char ++ [.value v] := by
  induction cs with
  | nil => rfl
  | cons c cs ih =>
    obtain ⟨first, rest⟩ := List.forall_mem_cons.mp h
    have other : c ≠ '?' := by
      rintro rfl
      cases first
    rw [List.cons_append, Draft.filled, if_neg other, ih rest]
    rfl

/-- What stands in front of the condition of a join. -/
def heading (j : Join) : String := "LEFT JOIN " ++ j.table ++ " " ++ j.aliasName ++ " ON "

/-- The condition of a join for its key, up to the key. -/
def tied (j : Join) (runs : String) : String :=
  runs ++ ".run_uuid = " ++ j.aliasName ++ ".run_uuid AND " ++ j.aliasName ++ ".key = "

variable {j : Join}

theorem Plain.quiet_heading (plain : j.Plain) : Sql.Quiet j.heading := by
  have table := Sql.quiet_of_isIdentifier plain.table
  have named := Sql.quiet_of_isIdentifier plain.aliasName
  exact (((Sql.Quiet.append (by decide) table).append (by decide)).append named).append (by decide)

theorem Plain.quiet_tied (plain : j.Plain) {runs : String}
    (runs_ok : Text.isIdentifier runs = true) : Sql.Quiet (j.tied runs) := by
  have named := Sql.quiet_of_isIdentifier plain.aliasName
  exact (((((Sql.quiet_of_isIdentifier runs_ok).append (by decide)).append named).append
    (by decide)).append named).append (by decide)

theorem keyCondition_eq_tied (j : Join) (runs : String) :
    keyCondition runs j.aliasName = j.tied runs ++ "?" := by
  rw [keyCondition, tied]
  simp only [String.append_assoc]
  rfl

theorem sql_of_key {runs : String} (condition : j.condition = keyCondition runs j.aliasName) :
    j.sql = j.heading ++ j.tied runs ++ "?" := by
  rw [Join.sql, condition, keyCondition_eq_tied, heading, ← String.append_assoc]

theorem draft_of_key (plain : j.Plain) {runs key : String}
    (runs_ok : Text.isIdentifier runs = true)
    (condition : j.condition = keyCondition runs j.aliasName) (params : j.params = [.text key]) :
    j.draft = Draft.text (j.heading ++ j.tied runs) ++ [.value (.text key)] := by
  have quiet := plain.quiet_heading.append (plain.quiet_tied runs_ok)
  rw [draft, sql_of_key condition, params, String.toList_append, String.toList_ofList,
    filled_quiet quiet]
  rfl

theorem draft_of_context (params : j.params = []) : j.draft = Draft.text j.sql := by
  rw [draft, params, Draft.text]
  cases j.sql.toList <;> rfl

/-- **A plain join follows its draft.** -/
theorem follows (plain : j.Plain) : (Fragment.mk j.sql j.params).Follows j.draft := by
  rcases plain.condition with ⟨runs, key, runs_ok, condition, params⟩ |
    ⟨metric, metric_ok, condition, params⟩
  · have quiet := plain.quiet_heading.append (plain.quiet_tied runs_ok)
    rw [draft_of_key plain runs_ok condition params, sql_of_key condition, params]
    exact .marked (Draft.read_quiet quiet) (.text key)
  · have named := Sql.quiet_of_isIdentifier plain.aliasName
    have quiet := plain.quiet_heading.append (((Sql.quiet_of_isIdentifier metric_ok).append
      (show Sql.Quiet ".context_id = " by decide)).append named |>.append
        (show Sql.Quiet ".id" by decide))
    rw [← condition, heading, ← Join.sql] at quiet
    rw [draft_of_context params, params]
    exact .ofQuiet quiet

end Join

end RunFilter
