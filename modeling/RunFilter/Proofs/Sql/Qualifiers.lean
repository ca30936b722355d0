import RunFilter.Proofs.Sql.Placeholders

/-!
# Tables that a statement names

A column is named behind its table, with a dot between them. The table is written in quotes or
bare, and Postgres takes a bare name for the one in lower case. Here a statement is read for the
names in front of its dots: `Sql.scan` goes through it character by character, with the name that
may end at the next one.

**The law** (`Compiler.qualifiers_build`): the qualifiers of a statement are those in the conditions
of its joins, followed by those of the columns that are tested. Columns of tables are qualified by
names in quotes, the joins and the duration of a run by bare ones (`Column.qualifiers`,
`Join.qualifiers`).

What is read in a part of a statement does not depend on the parts in front of it, as long as no
quotes are open and the part does not begin inside a name. So each part of a draft is read on its
own (`Draft.Qualifies`), for any numbers of its placeholders, and parts are put together around the
texts between them.
-/

set_option autoImplicit false

namespace RunFilter

namespace Sql

/-! ## Names -/

/-- A name as it is written in a statement. -/
inductive Name where
  | bare (word : List Char)
  | quoted (characters : List Char)
  deriving DecidableEq, Repr

namespace Name

/-- The characters of the name, its quotes aside. -/
def spelling : Name → List Char
  | .bare word => word
  | .quoted characters => characters

/-- **What Postgres takes the name for**: letters of a bare name are read in lower case. -/
def denoted : Name → List Char
  | .bare word => word.map Char.toLower
  | .quoted characters => characters

end Name

/-- Where a reader of names stands. -/
inductive Stage where
  /-- Outside of quotes, behind a word; the word is empty behind any other character. -/
  | word (read : List Char)
  /-- Between double quotes. -/
  | quoted (read : List Char)
  /-- Right behind a closing double quote. -/
  | behind (read : List Char)
  /-- Between single quotes. -/
  | literal
  deriving DecidableEq, Repr

namespace Stage

/-- At the beginning of a statement. -/
def start : Stage := .word []

/-- Behind a character that belongs to no name that was begun before it. -/
def first (c : Char) : Stage :=
  if Text.isNamePart c then .word [c]
  else if c = '"' then .quoted []
  else if c = '\x27' then .literal
  else .start

/-- Behind one more character. A quote between quotes is written twice. -/
def next (stage : Stage) (c : Char) : Stage :=
  match stage with
  | .word read => if Text.isNamePart c then .word (read ++ [c]) else first c
  | .quoted read => if c = '"' then .behind read else .quoted (read ++ [c])
  | .behind read => if c = '"' then .quoted (read ++ ['"']) else first c
  | .literal => if c = '\x27' then .start else .literal

/-- The name that ends here. -/
def name? : Stage → Option Name
  | .word [] => none
  | .word read => some (.bare read)
  | .behind read => some (.quoted read)
  | .quoted _ | .literal => none

/-- Outside of quotes. -/
def isFree : Stage → Bool
  | .word _ | .behind _ => true
  | .quoted _ | .literal => false

end Stage

/-- **A text read for qualifiers**: the names in front of dots, and where the reader stands then. -/
def scan (stage : Stage) : List Char → List Name × Stage
  | [] => ([], stage)
  | c :: cs =>
    let (names, stop) := scan (stage.next c) cs
    ((if c = '.' then stage.name?.toList else []) ++ names, stop)

/-- **The names in front of the dots of a statement.** -/
def qualifiers (sql : String) : List Name := (scan .start sql.toList).1

/-! ## Texts -/

variable {stage middle stop : Stage} {names names' : List Name} {cs ds word : List Char} {s : String}

theorem scan_append (h : scan stage cs = (names, middle)) (h' : scan middle ds = (names', stop)) :
    scan stage (cs ++ ds) = (names ++ names', stop) := by
  induction cs generalizing stage names with
  | nil =>
    cases h
    exact h'
  | cons c cs ih =>
    cases rest : scan (stage.next c) cs with
    | mk later after =>
      rw [scan, rest] at h
      cases h
      rw [List.cons_append, scan, ih rest, List.append_assoc]

/-- The same, where the first text has no qualifiers. -/
theorem scan_behind (h : scan stage cs = ([], middle)) (h' : scan middle ds = (names, stop)) :
    scan stage (cs ++ ds) = (names, stop) := scan_append h h'

/-- A character that no name goes on with, and that ends one only by parting it. -/
def isBreak (c : Char) : Bool :=
  !(Text.isNamePart c || c = '"' || c = '\x27' || c = '.')

/-- **Where a name cannot go on, it does not matter what has been read.** -/
theorem scan_of_isBreak {c : Char} (breaks : isBreak c = true) (free : stage.isFree = true) :
    scan stage (c :: cs) = scan .start (c :: cs) := by
  simp only [isBreak, Bool.not_eq_true', Bool.or_eq_false_iff, decide_eq_false_iff_not] at breaks
  obtain ⟨⟨⟨part, quote⟩, _⟩, dot⟩ := breaks
  have same : stage.next c = Stage.start.next c := by
    cases stage with
    | word read => simp [Stage.next, Stage.start, part]
    | behind read => simp [Stage.next, Stage.start, part, quote]
    | quoted | literal => cases free
  rw [scan, scan, same, if_neg dot, if_neg dot]

/-- **A text that parts two names**, and has no qualifiers itself. -/
def PartsNames (s : String) : Prop :=
  s.toList.head?.any isBreak = true ∧ scan .start s.toList = ([], .start)

/-- **A text behind a name** that does not go on with it, and has no qualifiers itself. -/
def Trails (s : String) : Prop :=
  s.toList.head?.any isBreak = true ∧ (scan .start s.toList).1 = [] ∧
    (scan .start s.toList).2.isFree = true

/-- **A text that begins with the dot behind a name**, and has no qualifiers but this. -/
def Attached (s : String) (stop : Stage) : Prop :=
  s.toList.head? = some '.' ∧ scan .start s.toList.tail = ([], stop)

instance (s : String) : Decidable (PartsNames s) := inferInstanceAs (Decidable (_ ∧ _))

instance (s : String) : Decidable (Trails s) := inferInstanceAs (Decidable (_ ∧ _))

instance (s : String) (stop : Stage) : Decidable (Attached s stop) :=
  inferInstanceAs (Decidable (_ ∧ _))

theorem scan_of_head (head : s.toList.head?.any isBreak = true) (free : stage.isFree = true) :
    scan stage s.toList = scan .start s.toList := by
  cases chars : s.toList with
  | nil => simp [chars] at head
  | cons c cs =>
    rw [chars] at head
    exact scan_of_isBreak head free

theorem PartsNames.scan (parts : PartsNames s) (free : stage.isFree = true) :
    Sql.scan stage s.toList = ([], .start) := (scan_of_head parts.1 free).trans parts.2

theorem Attached.scan (attached : Attached s stop) {name : Name} (ends : stage.name? = some name) :
    Sql.scan stage s.toList = ([name], stop) := by
  obtain ⟨head, rest⟩ := attached
  have first : stage.next '.' = .start := by
    cases stage with
    | word | behind => rfl
    | quoted | literal => cases ends
  cases chars : s.toList with
  | nil => simp [chars] at head
  | cons c cs =>
    rw [chars] at head rest
    obtain rfl : c = '.' := Option.some.inj head
    rw [List.tail_cons] at rest
    rw [Sql.scan, first, rest, if_pos rfl, ends]
    rfl

theorem scan_word (part : ∀ c ∈ cs, Text.isNamePart c = true) (read : List Char) :
    scan (.word read) cs = ([], .word (read ++ cs)) := by
  induction cs generalizing read with
  | nil => rw [List.append_nil, scan]
  | cons c cs ih =>
    obtain ⟨here, rest⟩ := List.forall_mem_cons.mp part
    have dot : c ≠ '.' := by
      rintro rfl
      cases here
    rw [scan, Stage.next, if_pos here, ih rest, if_neg dot, List.append_assoc]
    rfl

theorem scan_identifier (h : Text.isIdentifier s = true) :
    scan .start s.toList = ([], .word s.toList) := scan_word (isNamePart_of_mem h) []

theorem name?_identifier (h : Text.isIdentifier s = true) :
    (Stage.word s.toList).name? = some (.bare s.toList) := by
  cases chars : s.toList with
  | nil =>
    rw [Text.isIdentifier, chars] at h
    cases h
  | cons c cs => rfl

theorem scan_doubleQuotes (read : List Char) :
    scan (.quoted read) (doubleQuotes cs) = ([], .quoted (read ++ cs)) := by
  induction cs generalizing read with
  | nil => rw [List.append_nil, doubleQuotes, scan]
  | cons c cs ih =>
    rw [doubleQuotes]
    split
    next quote =>
      -- the first quote of a pair seems to close the name, the second one opens it again
      have rest := ih (read ++ ['"'])
      rw [List.append_assoc] at rest
      rw [scan, scan, quote]
      simp only [Stage.next, if_pos, rest]
      rfl
    next other =>
      have rest := ih (read ++ [c])
      rw [List.append_assoc] at rest
      rw [scan, Stage.next, if_neg other, rest]
      simp [Stage.name?]

/-- A name in quotes is read as it was before it was quoted. -/
theorem scan_quoteIdentifier (s : String) :
    scan .start (quoteIdentifier s).toList = ([], .behind s.toList) := by
  have opened : scan .start ['"'] = ([], .quoted []) := rfl
  rw [quoteIdentifier, String.toList_ofList]
  change scan .start (['"'] ++ (doubleQuotes s.toList ++ ['"'])) = _
  exact scan_behind opened (scan_behind (scan_doubleQuotes []) rfl)

/-! ## Drafts -/

namespace Draft

theorem numbered_text (d : Dialect) (index : Nat) (s : String) :
    numbered d index (text s) = s.toList := by
  rw [text]
  induction s.toList with
  | nil => rfl
  | cons c cs ih => exact congrArg (List.cons c) ih

/-- **A draft whose qualifiers are known**, whatever number its first value has. No quotes are open
behind it. -/
def Qualifies (l : Draft) (names : List Name) : Prop :=
  ∀ index, ∃ stop : Stage, stop.isFree = true ∧
    scan .start (l.numbered .postgres index) = (names, stop)

namespace Qualifies

variable {l m : Draft}

theorem text (h : scan .start s.toList = (names, stop)) (free : stop.isFree = true) :
    Qualifies (text s) names := fun index => ⟨stop, free, by rw [numbered_text, h]⟩

/-- Two drafts with a text between them that parts the names. -/
theorem beside (h : Qualifies l names) {separator : String} (separates : PartsNames separator)
    (h' : Qualifies m names') :
    Qualifies (l ++ Draft.text separator ++ m) (names ++ names') := by
  intro index
  obtain ⟨middle, free, left⟩ := h index
  obtain ⟨stop, free', right⟩ := h' (index + (l ++ Draft.text separator).values.length)
  refine ⟨stop, free', ?_⟩
  rw [numbered_append, numbered_append, numbered_text, List.append_assoc]
  exact scan_append left (scan_behind (separates.scan free) right)

theorem followed (h : Qualifies l names) {closing : String} (trails : Trails closing) :
    Qualifies (l ++ Draft.text closing) names := by
  intro index
  obtain ⟨middle, free, left⟩ := h index
  refine ⟨(scan .start closing.toList).2, trails.2.2, ?_⟩
  have closed : scan middle closing.toList = ([], (scan .start closing.toList).2) := by
    rw [scan_of_head trails.1 free, ← trails.2.1]
  rw [numbered_append, numbered_text, scan_append left closed, List.append_nil]

/-- A draft behind a text that ends in no name. -/
theorem opened (h : Qualifies l names) {opening : String}
    (opens : scan .start opening.toList = (names', .start)) :
    Qualifies (Draft.text opening ++ l) (names' ++ names) := by
  intro index
  obtain ⟨stop, free, inner⟩ := h (index + (Draft.text opening).values.length)
  refine ⟨stop, free, ?_⟩
  rw [numbered_append, numbered_text]
  exact scan_append opens inner

theorem grouped (h : Qualifies l names) : Qualifies l.grouped names :=
  (h.opened (show scan .start "(".toList = ([], .start) by decide)).followed (by decide)

theorem negated (h : Qualifies l names) : Qualifies l.negated names :=
  (h.opened (show scan .start "NOT (".toList = ([], .start) by decide)).followed (by decide)

/-- A value has no qualifiers. -/
theorem value (v : Value) : Qualifies [.value v] [] := by
  intro index
  have digits : ∀ c ∈ Nat.toDigits 10 index, Text.isNamePart c = true := fun c mem =>
    Text.isNamePart_of_isDigit (isDigit_of_mem_toDigits c mem)
  have sign : scan .start ['$'] = ([], .start) := rfl
  refine ⟨.word (Nat.toDigits 10 index), rfl, ?_⟩
  rw [numbered, numbered, List.append_nil, toList_placeholder]
  exact scan_behind sign (scan_word digits [])

theorem constant (holds : Bool) :
    Qualifies (Draft.text (if holds then "1 = 1" else "1 = 0")) [] := by
  cases holds with
  | false => exact text (show scan .start "1 = 0".toList = ([], .word ['0']) by decide) rfl
  | true => exact text (show scan .start "1 = 1".toList = ([], .word ['1']) by decide) rfl

theorem join {separator : String} (separates : PartsNames separator) {ls : List Draft}
    {names : List (List Name)} (h : List.Forall₂ Qualifies ls names) :
    Qualifies (Draft.join separator ls) names.flatten := by
  induction h with
  | nil => exact text (s := "") rfl rfl
  | @cons l first ls names qualifies rest ih =>
    cases rest with
    | nil =>
      rw [List.flatten_cons, List.flatten_nil, List.append_nil]
      exact qualifies
    | cons next rest => exact qualifies.beside separates ih

theorem test (h : Qualifies l names) {operator : String}
    (separates : PartsNames (" " ++ operator ++ " ")) (v : Value) :
    Qualifies (l.test operator v) names := by
  have whole := h.beside separates (value v)
  rwa [List.append_nil] at whole

theorem comparison (h : Qualifies l names) (op : Operator) (v : Value) :
    Qualifies (l.comparison op v) names := by
  have separates : PartsNames (" " ++ op.sql ++ " ") := by cases op <;> decide
  cases v with
  | null =>
    cases op with
    | equal => exact h.followed (by decide)
    | notEqual => exact h.followed (by decide)
    | less | greater | lessEqual | greaterEqual | among | notAmong => exact h.test separates .null
  | bool | int | float | text => exact h.test separates _

/-- Nothing is asked of the column if the list is empty. -/
theorem membership (h : Qualifies l names) (values : List Value) (negated : Bool) :
    Qualifies (l.membership values negated) (if values.isEmpty then [] else names) := by
  unfold Draft.membership
  by_cases empty : values.isEmpty
  · rw [if_pos empty, if_pos empty]
    exact constant negated
  · rw [if_neg empty, if_neg empty]
    have marks : Qualifies (Draft.join ", " (values.map fun v => [.value v]))
        (values.map fun _ => ([] : List Name)).flatten := by
      refine join (by decide) ?_
      rw [List.forall₂_map_left_iff, List.forall₂_map_right_iff]
      exact List.forall₂_same.mpr fun v _ => value v
    have separates :
        PartsNames (" " ++ (if negated then Operator.notAmong else .among).sql ++ " (") := by
      cases negated <;> decide
    have whole := (h.beside separates marks).followed (show Trails ")" by decide)
    rwa [List.flatten_eq_nil_iff.mpr (by simp), List.append_nil] at whole

end Qualifies

end Draft

end Sql

/-! ## Columns and tests -/

open Sql (Draft Name PartsNames Attached scan_append scan_behind scan_identifier name?_identifier)
open Sql.Draft (Qualifies)

namespace Column

/-- **The names that a column is qualified by**: one in quotes, or those of an expression. -/
def qualifiers : Column → List Name
  | .field table _ | .document table _ _ => [.quoted table.toList]
  | .expression sql => Sql.qualifiers sql

/-- The name of a field in quotes, behind its table in quotes. -/
theorem scan_field (table column : String) :
    Sql.scan .start (Sql.quoteIdentifier table ++ "." ++ Sql.quoteIdentifier column).toList =
      ([.quoted table.toList], .behind column.toList) := by
  have dot : Attached "." .start := by decide
  rw [String.toList_append, String.toList_append]
  exact scan_append (scan_behind (Sql.scan_quoteIdentifier table) (dot.scan rfl))
    (Sql.scan_quoteIdentifier column)

/-- **A duration names its table bare**, and twice. -/
theorem scan_duration {table : String} (h : Text.isIdentifier table = true) :
    Sql.scan .start ("(" ++ table ++ ".end_time - " ++ table ++ ".start_time) / 1000").toList =
      ([.bare table.toList, .bare table.toList], .word ['1', '0', '0', '0']) := by
  have ends : Attached ".end_time - " .start := by decide
  have starts : Attached ".start_time) / 1000" (.word ['1', '0', '0', '0']) := by decide
  have named := scan_identifier h
  have name := name?_identifier h
  have opening : Sql.scan .start "(".toList = ([], .start) := by decide
  simp only [String.toList_append]
  have first := scan_append (scan_behind opening named) (ends.scan name)
  exact scan_append (scan_append first named) (starts.scan name)

theorem qualifiers_duration {table : String} (h : Text.isIdentifier table = true) :
    (Column.expression ("(" ++ table ++ ".end_time - " ++ table ++ ".start_time) / 1000")).qualifiers
      = [.bare table.toList, .bare table.toList] := by
  rw [qualifiers, Sql.qualifiers, scan_duration h]

/-- **The qualifiers of a column are read in its draft.** -/
theorem qualifies {column : Column} (plain : column.Plain) :
    Qualifies (column.draft .postgres) column.qualifiers := by
  cases column with
  | field table column => exact .text (scan_field table column) rfl
  | expression sql =>
    obtain ⟨table, table_ok, rfl⟩ := plain
    rw [qualifiers_duration table_ok]
    exact .text (scan_duration table_ok) rfl
  | document table column path =>
    have arrow : PartsNames "#>>" := by decide
    have field : Qualifies (Draft.text (Sql.quoteIdentifier table ++ "." ++
        Sql.quoteIdentifier column)) [.quoted table.toList] := .text (scan_field table column) rfl
    have whole := field.beside arrow (.value (.text (Dialect.postgres.path path)))
    rwa [← Draft.text_append, List.append_nil] at whole

end Column

namespace Test

/-- Whether the test is written with its column: membership in the empty list is not. -/
def isWritten : Test → Bool
  | .among values _ => !values.isEmpty
  | .compare _ _ | .like _ _ | .matches _ _ => true

theorem qualifies {column : Column} (plain : column.Plain) (inverted : Bool) (asked : Test) :
    Qualifies (asked.draft .postgres column inverted)
      (if asked.isWritten then column.qualifiers else []) := by
  have target := column.qualifies plain
  cases asked with
  | compare op value => exact target.comparison _ value
  | like pattern negated =>
    refine target.test ?_ _
    cases inverted != negated <;> decide
  | among values negated =>
    have whole := target.membership values (inverted != negated)
    rw [isWritten]
    cases values <;> exact whole
  | «matches» pattern negated =>
    refine target.test ?_ _
    cases inverted != negated <;> decide

end Test

/-! ## Predicates -/

namespace Predicate

mutual
/-- **The columns that are written for a predicate**, from left to right. -/
def writtenColumns : Predicate → List Column
  | .test column asked => if asked.isWritten then [column] else []
  | .constant _ => []
  | .all parts | .any parts => writtenColumnsAll parts
  | .negation part => part.writtenColumns
/-- The columns that are written for predicates. -/
def writtenColumnsAll : List Predicate → List Column
  | [] => []
  | p :: ps => p.writtenColumns ++ writtenColumnsAll ps
end

theorem writtenColumnsAll_eq_flatMap (ps : List Predicate) :
    writtenColumnsAll ps = ps.flatMap writtenColumns := by
  induction ps with
  | nil => rfl
  | cons p ps ih => rw [writtenColumnsAll, ih, List.flatMap_cons]

/-- The qualifiers of a predicate: those of the columns that are written for it. -/
def qualifiers (p : Predicate) : List Name := p.writtenColumns.flatMap Column.qualifiers

/-- The qualifiers of operands, operand by operand. -/
theorem qualifiers_flatten (ps : List Predicate) :
    (ps.map qualifiers).flatten = (writtenColumnsAll ps).flatMap Column.qualifiers := by
  rw [writtenColumnsAll_eq_flatMap, List.flatMap_assoc]
  rfl

theorem qualifies_wrapped {l : Draft} {names : List Name} (h : Qualifies l names)
    (inverted : Bool) : Qualifies (if inverted then l.negated else l) names := by
  cases inverted with
  | false => exact h
  | true => exact h.negated

mutual
/-- **The qualifiers of a well-formed predicate are read in its draft**, inverted or not. -/
theorem qualifies : ∀ {p : Predicate} (inverted : Bool), p.WellFormed →
    Qualifies (p.draft .postgres inverted) p.qualifiers
  | .test column asked, inverted, h => by
    have whole := Test.qualifies h inverted asked
    rw [qualifiers, writtenColumns, draft]
    by_cases written : asked.isWritten
    · simpa only [if_pos written, List.flatMap_singleton] using whole
    · simpa only [if_neg written, List.flatMap_nil] using whole
  | .constant holds, inverted, _ => .constant _
  | .all parts, inverted, h => by
    rw [qualifiers, writtenColumns, ← qualifiers_flatten]
    exact qualifies_wrapped (.join (by decide) (qualifies_operands _ h.2)) inverted
  | .any parts, inverted, h => by
    rw [qualifiers, writtenColumns, ← qualifiers_flatten]
    exact qualifies_wrapped (.join (by decide) (qualifies_operands _ h.2)) inverted
  | .negation part, inverted, h => qualifies (p := part) (!inverted) h
theorem qualifies_operands (several : Bool) : ∀ {ps : List Predicate}, WellFormedAll ps →
    List.Forall₂ Qualifies (operandDrafts .postgres several ps) (ps.map qualifiers)
  | [], _ => .nil
  | p :: ps, h => by
    have first := qualifies (p := p) false h.1
    refine .cons ?_ (qualifies_operands several h.2)
    split
    · exact first.grouped
    · exact first
end

end Predicate

/-! ## Joins -/

namespace Join

/-- The names that the condition of a join qualifies its columns by. -/
def qualifiers (j : Join) : List Name := Sql.qualifiers j.condition

variable {j : Join}

/-- No qualifiers stand in front of the condition. -/
theorem scan_heading (plain : j.Plain) : Sql.scan .start j.heading.toList = ([], .start) := by
  have opening : Sql.scan .start "LEFT JOIN ".toList = ([], .start) := by decide
  have blank : PartsNames " " := by decide
  have on : PartsNames " ON " := by decide
  simp only [heading, String.toList_append]
  have table := scan_behind opening (scan_identifier plain.table)
  have named := scan_behind (scan_behind table (blank.scan rfl)) (scan_identifier plain.aliasName)
  exact scan_behind named (on.scan rfl)

/-- **The condition for a key names the runs**, and the join twice. -/
theorem scan_tied (plain : j.Plain) {runs : String} (runs_ok : Text.isIdentifier runs = true) :
    Sql.scan .start (j.tied runs).toList =
      ([.bare runs.toList, .bare j.aliasName.toList, .bare j.aliasName.toList], .start) := by
  have tie : Attached ".run_uuid = " .start := by decide
  have both : Attached ".run_uuid AND " .start := by decide
  have key : Attached ".key = " .start := by decide
  have named := scan_identifier plain.aliasName
  have name := name?_identifier plain.aliasName
  simp only [tied, String.toList_append]
  have first := scan_append (scan_identifier runs_ok) (tie.scan (name?_identifier runs_ok))
  have second := scan_append (scan_append first named) (both.scan name)
  exact scan_append (scan_append second named) (key.scan name)

theorem qualifiers_of_key (plain : j.Plain) {runs : String}
    (runs_ok : Text.isIdentifier runs = true)
    (condition : j.condition = keyCondition runs j.aliasName) :
    j.qualifiers = [.bare runs.toList, .bare j.aliasName.toList, .bare j.aliasName.toList] := by
  have mark : Sql.scan .start "?".toList = ([], .start) := by decide
  rw [qualifiers, Sql.qualifiers, condition, keyCondition_eq_tied, String.toList_append,
    scan_append (scan_tied plain runs_ok) mark]
  rfl

/-- **The condition for a context names a join of a metric**, and the join. -/
theorem scan_context (plain : j.Plain) {metric : String}
    (metric_ok : Text.isIdentifier metric = true)
    (condition : j.condition = metric ++ ".context_id = " ++ j.aliasName ++ ".id") :
    Sql.scan .start j.condition.toList =
      ([.bare metric.toList, .bare j.aliasName.toList], .word ['i', 'd']) := by
  have tie : Attached ".context_id = " .start := by decide
  have id : Attached ".id" (.word ['i', 'd']) := by decide
  simp only [condition, String.toList_append]
  have first := scan_append (scan_identifier metric_ok) (tie.scan (name?_identifier metric_ok))
  exact scan_append (scan_append first (scan_identifier plain.aliasName))
    (id.scan (name?_identifier plain.aliasName))

/-- **The qualifiers of a join are read in its draft.** -/
theorem qualifies (plain : j.Plain) : Qualifies j.draft j.qualifiers := by
  have heading := scan_heading plain
  -- the value of a key ends its draft, and a condition for a context has no value
  rcases plain.condition with ⟨runs, key, runs_ok, condition, params⟩ |
    ⟨metric, metric_ok, condition, params⟩
  · have opens := scan_behind heading (scan_tied plain runs_ok)
    rw [← String.toList_append] at opens
    rw [draft_of_key plain runs_ok condition params, qualifiers_of_key plain runs_ok condition]
    exact (Qualifies.value (.text key)).opened opens
  · have tied := scan_context plain metric_ok condition
    have whole := scan_behind heading tied
    rw [← String.toList_append] at whole
    rw [draft_of_context params, qualifiers, Sql.qualifiers, tied]
    exact .text whole rfl

end Join

/-! ## Statements -/

namespace Select

/-- The selected columns are named without a table. -/
theorem scan_columnList (s : Select) : ∃ stop : Sql.Stage, stop.isFree = true ∧
    Sql.scan .start s.columnList.toList = ([], stop) := by
  unfold columnList
  split
  · exact ⟨.start, rfl, by decide⟩
  · have comma : PartsNames ", " := by decide
    induction s.columns with
    | nil => exact ⟨.start, rfl, rfl⟩
    | cons name names ih =>
      have quoted := Sql.scan_quoteIdentifier name
      cases names with
      | nil =>
        rw [List.map_singleton, String.intercalate_singleton]
        exact ⟨_, rfl, quoted⟩
      | cons next names =>
        obtain ⟨stop, free, rest⟩ := ih
        refine ⟨stop, free, ?_⟩
        rw [List.map_cons, List.map_cons, String.intercalate_cons_cons, ← List.map_cons,
          String.toList_append, String.toList_append]
        exact scan_behind (scan_behind quoted (comma.scan rfl)) rest

/-- No qualifiers stand in front of the joins. -/
theorem qualifies_header (s : Select) :
    Qualifies (Draft.text ("SELECT " ++ s.columnList ++ " FROM " ++ Sql.quoteIdentifier s.table))
      [] := by
  have opening : Sql.scan .start "SELECT ".toList = ([], .start) := by decide
  have source : PartsNames " FROM " := by decide
  obtain ⟨stop, free, columns⟩ := s.scan_columnList
  have listed := scan_behind opening columns
  have whole := scan_behind (scan_behind listed (source.scan free))
    (Sql.scan_quoteIdentifier s.table)
  simp only [← String.toList_append] at whole
  exact .text whole rfl

theorem qualifies_joins {joins : List Join} (plain : ∀ j ∈ joins, j.Plain) {l : Draft}
    {names : List Name} (h : Qualifies l names) :
    Qualifies (l ++ (joins.map Join.draft).flatMap fun l => Draft.text " " ++ l)
      (names ++ joins.flatMap Join.qualifiers) := by
  -- each join is read behind a longer draft, so the draft and its names are general
  induction joins generalizing l names with
  | nil =>
    rw [List.map_nil, List.flatMap_nil, List.flatMap_nil, List.append_nil, List.append_nil]
    exact h
  | cons j joins ih =>
    obtain ⟨first, rest⟩ := List.forall_mem_cons.mp plain
    have longer := ih rest (h.beside (by decide : PartsNames " ") (Join.qualifies first))
    simpa only [List.map_cons, List.flatMap_cons, List.append_assoc] using longer

/-- The table of a statement stands in front of its joins and conditions. -/
theorem Aligned.begins {s : Select} {joins conditions : List Draft}
    (aligned : s.Aligned (s.draft joins conditions)) : ∃ behind, s.build.sql =
      "SELECT " ++ s.columnList ++ " FROM " ++ Sql.quoteIdentifier s.table ++ behind := by
  have sql := aligned.sql
  rw [draft, List.append_assoc, Draft.numbered_append, Draft.numbered_text] at sql
  have glue : ∀ (t : String) (cs : List Char), t.toList ++ cs = (t ++ String.ofList cs).toList := by
    intro t cs
    rw [String.toList_append, String.toList_ofList]
  exact ⟨_, String.toList_inj.mp (sql.trans (glue _ _))⟩

/-- **The qualifiers of a statement** of a resolution that can be written: those of its joins, then
those of the columns that its conditions test. -/
theorem qualifies_draft (s : Select) {r : Resolution} (h : r.WellFormed) :
    Qualifies (s.draft (r.joins.map Join.draft) (r.draft? .postgres).toList)
      (r.joins.flatMap Join.qualifiers ++ r.conjuncts.flatMap Predicate.qualifiers) := by
  have joined := qualifies_joins h.joins s.qualifies_header
  rw [List.nil_append] at joined
  rw [draft, Resolution.draft?]
  by_cases empty : r.conjuncts.isEmpty
  · rw [if_pos empty, List.isEmpty_iff.mp empty, List.flatMap_nil, List.append_nil,
      Option.toList_none, List.isEmpty_nil, if_pos rfl, List.append_nil]
    exact joined
  · have wellFormed := Predicate.wellFormedAll_iff.mpr h.conjuncts
    have tested : Qualifies ((Predicate.all r.conjuncts).draft .postgres false) _ :=
      .join (by decide) (Predicate.qualifies_operands _ wellFormed)
    rw [← List.flatMap_def] at tested
    have whole := joined.beside (by decide : PartsNames " WHERE ") tested
    rw [if_neg empty, Option.toList_some]
    simpa [Draft.join, List.append_assoc] using whole

end Select

namespace Compiler

variable {c : Compiler} {query : String} {r : Resolution} {table : String} {columns : List String}

/-- The statement of a query is aligned with the draft of its resolution. -/
theorem aligned_filter (accepted : c.Accepted) (resolved : c.resolve query = .ok r)
    (table_ok : Text.isIdentifier table = true)
    (columns_ok : ∀ name ∈ columns, Text.isIdentifier name = true) :
    let s := (c.ofResolution r).filter ⟨c.dialect, table, columns, [], []⟩
    s.Aligned (s.draft (r.joins.map Join.draft) (r.draft? c.dialect).toList) := by
  intro s
  have wellFormed := wellFormed_resolve accepted resolved
  have same : s = ⟨c.dialect, table, columns, r.joins.map fun j => ⟨j.sql, j.params⟩,
      (whereFragment c.dialect r.contextFilters r.predicate).toList⟩ :=
    CompiledQuery.filter_eq _ _
  rw [same]
  exact Select.aligned_of_follows (Select.follows table_ok columns_ok
    (Resolution.follows_joins wellFormed) (Resolution.follows_condition wellFormed c.dialect))

/-- **The qualifiers of the statement of a query**, for Postgres: those of its joins, then those of
the columns that are tested. The table of the statement stands in front of them all. -/
theorem qualifiers_build (accepted : c.Accepted) (postgres : c.dialect = .postgres)
    (resolved : c.resolve query = .ok r) (table_ok : Text.isIdentifier table = true)
    (columns_ok : ∀ name ∈ columns, Text.isIdentifier name = true) :
    let s := (c.ofResolution r).filter ⟨.postgres, table, columns, [], []⟩
    Sql.qualifiers s.build.sql =
        r.joins.flatMap Join.qualifiers ++ r.conjuncts.flatMap Predicate.qualifiers ∧
      ∃ behind, s.build.sql =
        "SELECT " ++ s.columnList ++ " FROM " ++ Sql.quoteIdentifier s.table ++ behind := by
  have aligned := aligned_filter accepted resolved table_ok columns_ok
  rw [postgres] at aligned
  intro s
  have dialect : s.dialect = .postgres := by
    change ((c.ofResolution r).filter _).dialect = _
    rw [CompiledQuery.filter_eq]
  have sql := aligned.sql
  rw [dialect] at sql
  constructor
  · obtain ⟨stop, _, read⟩ := s.qualifies_draft (wellFormed_resolve accepted resolved) 1
    rw [Sql.qualifiers, sql, read]
  · exact aligned.begins

end Compiler

end RunFilter
