import RunFilter.Sql.Placeholder
import RunFilter.Text.Ascii
import RunFilter.Value

/-!
# Statements with their values in place

Statements and values are collected side by side, and a mark stands for each value until the end.
A draft holds both in one sequence, so that every value stands where it belongs. The text with
marks, the list of values and the text with placeholders are three views of one draft.

A reader of the statement must find the placeholders and nothing else: a draft is legible if no
character is taken for a placeholder, no value stands in a literal, and no digit follows a value.

**The law** (`Draft.numberFrom_marked`, `Draft.placeholders_numbered`): of a legible draft the
numbered text is made from the marked text, and it counts its values from the left.
-/

set_option autoImplicit false

namespace RunFilter.Sql

/-- A character of a statement, or a value in its place. -/
inductive Piece where
  | char (c : Char)
  | value (v : Value)

/-- **A statement with its values in place.** -/
abbrev Draft := List Piece

namespace Draft

/-- A text without values. -/
def text (s : String) : Draft := s.toList.map .char

/-- The characters, with `?` for each value. -/
def marked : Draft → List Char
  | [] => []
  | .char c :: l => c :: marked l
  | .value _ :: l => '?' :: marked l

/-- The values from left to right. -/
def values : Draft → List Value
  | [] => []
  | .char _ :: l => values l
  | .value v :: l => v :: values l

/-- **The characters, with the placeholders of a dialect** for the values, counted from an
index. -/
def numbered (d : Dialect) (index : Nat) : Draft → List Char
  | [] => []
  | .char c :: l => c :: numbered d index l
  | .value _ :: l => (d.placeholder index).toList ++ numbered d (index + 1) l

theorem text_append (s t : String) : text (s ++ t) = text s ++ text t := by
  rw [text, String.toList_append, List.map_append]
  rfl

theorem marked_append (l m : Draft) : marked (l ++ m) = marked l ++ marked m := by
  induction l with
  | nil => rfl
  | cons p l ih => cases p <;> exact congrArg (List.cons _) ih

theorem values_append (l m : Draft) : values (l ++ m) = values l ++ values m := by
  induction l with
  | nil => rfl
  | cons p l ih =>
    cases p with
    | char c => exact ih
    | value v => exact congrArg (List.cons v) ih

theorem marked_chars (cs : List Char) : marked (cs.map .char) = cs := by
  induction cs with
  | nil => rfl
  | cons c cs ih => exact congrArg (List.cons c) ih

theorem values_chars (cs : List Char) : values (cs.map .char) = [] := by
  induction cs with
  | nil => rfl
  | cons c cs ih => exact ih

theorem marked_text (s : String) : marked (text s) = s.toList := marked_chars s.toList

theorem values_text (s : String) : values (text s) = [] := values_chars s.toList

/-! ## Legible drafts -/

/-- Where a reader of a statement stands. -/
inductive Stand where
  | free
  /-- Right behind a value. -/
  | behind
  /-- Between single quotes. -/
  | quoted
  deriving DecidableEq

/-- A character that begins a placeholder. -/
def isMark (c : Char) : Bool := c = '?' || c = '$'

/-- Where a reader stands after one more piece, if the piece cannot mislead it. -/
def step (stand : Stand) : Piece → Option Stand
  | .value _ => if stand = .quoted then none else some .behind
  | .char c =>
    if isMark c || (stand = .behind && c.isDigit) then none
    else if c = '\x27' then some (if stand = .quoted then .free else .quoted)
    else some (if stand = .quoted then .quoted else .free)

/-- **Where a reader stands after a draft**, if nothing in it can mislead. -/
def read (stand : Stand) (l : Draft) : Option Stand := l.foldlM step stand

theorem read_append {l m : Draft} {start stop : Stand} (h : read start l = some stop) :
    read start (l ++ m) = read stop m := by
  rw [read, List.foldlM_append, ← read, h]
  rfl

theorem read_cons {p : Piece} {l : Draft} {start stop : Stand}
    (h : read start (p :: l) = some stop) :
    ∃ next, step start p = some next ∧ read next l = some stop := Option.bind_eq_some_iff.mp h

/-- What a reader has seen of a character that did not mislead it; a quote opens or closes a
literal. -/
theorem step_char {c : Char} {start next : Stand} (h : step start (.char c) = some next) :
    isMark c = false ∧ (start = .behind → c.isDigit = false) ∧
      decide (next = .quoted) =
        if c = '\x27' then !decide (start = .quoted) else decide (start = .quoted) := by
  rw [step] at h
  split at h
  · cases h
  next clear =>
    rw [Bool.or_eq_true, not_or, Bool.not_eq_true] at clear
    refine ⟨clear.1, fun behind => ?_, ?_⟩
    · simpa only [behind, decide_true, Bool.true_and, Bool.not_eq_true] using clear.2
    · obtain rfl := Option.some.inj ((apply_ite some _ _ _).trans h)
      split <;> cases start <;> decide

/-- What a reader has seen of a value that did not mislead it. -/
theorem step_value {v : Value} {start next : Stand} (h : step start (.value v) = some next) :
    start ≠ .quoted ∧ next = .behind := by
  rw [step] at h
  split at h
  · cases h
  next outside => exact ⟨outside, (Option.some.inj h).symm⟩

theorem ne_question {c : Char} (h : isMark c = false) : c ≠ '?' := by
  rintro rfl
  cases h

theorem not_mark {c : Char} (h : isMark c = false) (outside : Bool) :
    ¬(decide (c = '?') && outside) = true := by
  intro both
  exact ne_question h (of_decide_eq_true (Bool.and_eq_true_iff.mp both).1)

theorem ne_dollar {c : Char} (h : isMark c = false) : c ≠ '$' := by
  rintro rfl
  cases h

/-! ## Numbering -/

/-- **Numbering the marks of a legible draft** puts a placeholder in the place of each value. -/
theorem numberFrom_marked (d : Dialect) {l : Draft} {start stop : Stand}
    (h : read start l = some stop) (index : Nat) :
    numberFrom d index (start = .quoted) (marked l) = numbered d index l := by
  -- What is open for the scan is what is open for the reader, piece by piece.
  induction l generalizing start index with
  | nil => rfl
  | cons p l ih =>
    obtain ⟨next, first, rest⟩ := read_cons h
    cases p with
    | value v =>
      obtain ⟨outside, rfl⟩ := step_value first
      have below := ih rest (index + 1)
      rw [marked, numberFrom, numbered, decide_eq_false outside]
      exact congrArg ((d.placeholder index).toList ++ ·) below
    | char c =>
      obtain ⟨clear, _, quoted⟩ := step_char first
      have below := ih rest index
      rw [marked, numberFrom, numbered]
      split
      next quote => rw [← below, quoted, if_pos quote]
      next other =>
        rw [if_neg (not_mark clear _), ← below, quoted, if_neg other]

/-- The placeholders of SQLite are the marks. -/
theorem numbered_sqlite (index : Nat) (l : Draft) : numbered .sqlite index l = marked l := by
  induction l generalizing index with
  | nil => rfl
  | cons p l ih =>
    cases p with
    | char c => exact congrArg (List.cons c) (ih index)
    | value v =>
      rw [numbered, ih, Dialect.placeholder]
      rfl

theorem numbered_append (d : Dialect) (index : Nat) (l m : Draft) :
    numbered d index (l ++ m) = numbered d index l ++ numbered d (index + l.values.length) m := by
  induction l generalizing index with
  | nil => rfl
  | cons p l ih =>
    cases p with
    | char c => exact congrArg (List.cons c) (ih index)
    | value v =>
      rw [List.cons_append, numbered, ih, numbered, values, List.length_cons, List.append_assoc,
        Nat.add_assoc index, Nat.add_comm 1]

/-- **The placeholder of a value stands where the value stood**, with the number of the value. -/
theorem numbered_value (d : Dialect) (l m : Draft) (v : Value) :
    numbered d 1 (l ++ .value v :: m) = numbered d 1 l ++
        (d.placeholder (l.values.length + 1)).toList ++ numbered d (l.values.length + 2) m ∧
      (values (l ++ .value v :: m))[l.values.length]? = some v := by
  constructor
  · rw [numbered_append, numbered, Nat.add_comm 1, List.append_assoc]
  · rw [values_append, List.getElem?_append_right (Nat.le_refl _), Nat.sub_self]
    rfl

end Draft

/-! ## Counting -/

/-- The marks of a text that stand outside of literals. -/
def marks (quoted : Bool) : List Char → Nat
  | [] => 0
  | c :: cs =>
    if c = '\x27' then marks (!quoted) cs
    else if c = '?' && !quoted then marks quoted cs + 1
    else marks quoted cs

/-- **The numbers behind the `$` of a text** from left to right; `number` is what has been read of
the number at hand. -/
def placeholders (number : Option Nat) : List Char → List Nat
  | [] => number.toList
  | c :: cs =>
    if number.isSome && c.isDigit then
      placeholders (number.map fun n => 10 * n + (c.toNat - '0'.toNat)) cs
    else number.toList ++ placeholders (if c = '$' then some 0 else none) cs

namespace Draft

theorem marks_marked {l : Draft} {start stop : Stand} (h : read start l = some stop) :
    marks (start = .quoted) (marked l) = l.values.length := by
  induction l generalizing start with
  | nil => rfl
  | cons p l ih =>
    obtain ⟨next, first, rest⟩ := read_cons h
    have below := ih rest
    cases p with
    | value v =>
      obtain ⟨outside, rfl⟩ := step_value first
      rw [marked, marks, values, decide_eq_false outside]
      exact congrArg (· + 1) below
    | char c =>
      obtain ⟨clear, _, quoted⟩ := step_char first
      rw [marked, marks, values]
      split
      next quote => rw [← below, quoted, if_pos quote]
      next other =>
        rw [if_neg (not_mark clear _), ← below, quoted, if_neg other]

/-- All marks of a legible draft stand for values, in literals or not. -/
theorem count_marked {l : Draft} {start stop : Stand} (h : read start l = some stop) :
    (marked l).count '?' = l.values.length := by
  induction l generalizing start with
  | nil => rfl
  | cons p l ih =>
    obtain ⟨next, first, rest⟩ := read_cons h
    cases p with
    | value v => rw [marked, values, List.count_cons_self, ih rest, List.length_cons]
    | char c =>
      rw [marked, values, List.count_cons_of_ne (ne_question (step_char first).1), ih rest]

theorem placeholders_digits {ds : List Char} (digits : ∀ c ∈ ds, c.isDigit = true) (n : Nat)
    (cs : List Char) :
    placeholders (some n) (ds ++ cs) = placeholders (some (Nat.ofDigitChars 10 ds n)) cs := by
  induction ds generalizing n with
  | nil => rfl
  | cons c ds ih =>
    obtain ⟨first, rest⟩ := List.forall_mem_cons.mp digits
    rw [List.cons_append, placeholders, Option.isSome_some, Bool.true_and, if_pos first,
      Nat.ofDigitChars_cons]
    exact ih rest _

theorem toList_placeholder (index : Nat) :
    (Dialect.placeholder index .postgres).toList = '$' :: Nat.toDigits 10 index := by
  rw [Dialect.placeholder, Nat.toString_eq_repr, String.toList_append,
    Nat.repr_eq_ofList_toDigits, String.toList_ofList, String.toList_ofList]
  rfl

theorem isDigit_of_mem_toDigits {index : Nat} : ∀ c ∈ Nat.toDigits 10 index, c.isDigit = true :=
  fun _ mem => Nat.isDigit_of_mem_toDigits (by decide) (by decide) mem

/-- A placeholder is read with its number. -/
theorem placeholders_placeholder (number : Option Nat) (index : Nat) (cs : List Char) :
    placeholders number ((Dialect.placeholder index .postgres).toList ++ cs) =
      number.toList ++ placeholders (some index) cs := by
  have dollar : ¬(number.isSome && '$'.isDigit) = true := by
    rw [show '$'.isDigit = false from rfl, Bool.and_false]
    exact Bool.false_ne_true
  rw [toList_placeholder, List.cons_append, placeholders, if_neg dollar, if_pos rfl,
    placeholders_digits isDigit_of_mem_toDigits, Nat.ofDigitChars_ten_toDigits]

/-- **The placeholders of Postgres are counted from the left**, one for each value. -/
theorem placeholders_numbered {l : Draft} {start stop : Stand} (h : read start l = some stop)
    {number : Option Nat} (behind : number.isSome → start = .behind) (index : Nat) :
    placeholders number (numbered .postgres index l) =
      number.toList ++ List.range' index l.values.length := by
  -- A number is at hand only right behind a value, and no digit follows there.
  induction l generalizing start number index with
  | nil => exact (List.append_nil _).symm
  | cons p l ih =>
    obtain ⟨next, first, rest⟩ := read_cons h
    cases p with
    | value v =>
      obtain ⟨_, rfl⟩ := step_value first
      rw [numbered, placeholders_placeholder, ih rest (fun _ => rfl), values, List.length_cons,
        List.range'_succ]
      rfl
    | char c =>
      obtain ⟨clear, digit, _⟩ := step_char first
      have plain : ¬(number.isSome && c.isDigit) = true := by
        intro both
        obtain ⟨some, isDigit⟩ := Bool.and_eq_true_iff.mp both
        rw [digit (behind some)] at isDigit
        cases isDigit
      rw [numbered, placeholders, if_neg plain, if_neg (ne_dollar clear),
        ih rest (fun (some : none.isSome = true) => nomatch some), values]
      rfl

/-- No mark is left for Postgres. -/
theorem not_mem_numbered {l : Draft} {start stop : Stand} (h : read start l = some stop)
    (index : Nat) : '?' ∉ numbered .postgres index l := by
  induction l generalizing start index with
  | nil => exact List.not_mem_nil
  | cons p l ih =>
    obtain ⟨next, first, rest⟩ := read_cons h
    cases p with
    | value v =>
      rw [numbered, toList_placeholder, List.cons_append, List.mem_cons, List.mem_append, not_or,
        not_or]
      refine ⟨by decide, fun mem => ?_, ih rest _⟩
      cases isDigit_of_mem_toDigits '?' mem
    | char c =>
      rw [numbered, List.mem_cons, not_or]
      exact ⟨(ne_question (step_char first).1).symm, ih rest _⟩

end Draft

end RunFilter.Sql
