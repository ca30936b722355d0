import RunFilter.Proofs.Sql.Following

/-!
# Words of a condition

A condition falls into words at the blanks that stand outside of parentheses. What is in
parentheses is part of one word, so the words of a group say nothing of its inside, and the words of
a leaf are few: a column, an operator, and marks.

**The law** (`Sql.IsLeaf.wording`): a leaf has three words at least, none of them a connective, and
its parentheses are closed. That is all that tells leaves from groups and negations.
-/

set_option autoImplicit false

namespace RunFilter.Sql

/-! ## Parentheses -/

/-- The depth of parentheses behind a character; none if it closes what is not open. -/
def nest (depth : Nat) (c : Char) : Option Nat :=
  if c = '(' then some (depth + 1)
  else if c = ')' then if depth = 0 then none else some (depth - 1)
  else some depth

/-- **The depth of parentheses behind a text.** -/
def depthAfter (depth : Nat) (cs : List Char) : Option Nat := cs.foldlM nest depth

/-- **A text that closes what it opens**, and nothing else. -/
def Balanced (cs : List Char) : Prop := depthAfter 0 cs = some 0

instance (cs : List Char) : Decidable (Balanced cs) :=
  inferInstanceAs (Decidable (depthAfter 0 cs = some 0))

theorem depthAfter_cons {depth stop : Nat} {c : Char} {cs : List Char}
    (h : depthAfter depth (c :: cs) = some stop) :
    ∃ next, nest depth c = some next ∧ depthAfter next cs = some stop :=
  Option.bind_eq_some_iff.mp h

theorem depthAfter_append {depth next : Nat} {cs : List Char} (h : depthAfter depth cs = some next)
    (ds : List Char) : depthAfter depth (cs ++ ds) = depthAfter next ds := by
  rw [depthAfter, List.foldlM_append, ← depthAfter, h]
  rfl

/-- What is further in goes on at its own depth. -/
theorem nest_succ {depth next : Nat} {c : Char} (h : nest depth c = some next) :
    nest (depth + 1) c = some (next + 1) := by
  unfold nest at h ⊢
  split at h
  next opens =>
    cases h
    rw [if_pos opens]
  next other =>
    rw [if_neg other]
    split at h
    next closes =>
      split at h
      · cases h
      next inside =>
        cases h
        rw [if_pos closes, if_neg (Nat.succ_ne_zero depth)]
        exact congrArg some (Nat.succ_pred_eq_of_ne_zero inside).symm
    next neither =>
      cases h
      rw [if_neg neither]

theorem depthAfter_succ {depth stop : Nat} {cs : List Char}
    (h : depthAfter depth cs = some stop) : depthAfter (depth + 1) cs = some (stop + 1) := by
  induction cs generalizing depth with
  | nil =>
    cases h
    rfl
  | cons c cs ih =>
    obtain ⟨next, first, rest⟩ := depthAfter_cons h
    exact Option.bind_eq_some_iff.mpr ⟨next + 1, nest_succ first, ih rest⟩

namespace Balanced

variable {cs ds : List Char}

theorem append (hc : Balanced cs) (hd : Balanced ds) : Balanced (cs ++ ds) :=
  (depthAfter_append hc ds).trans hd

/-- Parentheses around a balanced text are balanced. -/
theorem enclosed (h : Balanced cs) : Balanced ('(' :: cs ++ [')']) :=
  (depthAfter_append (depthAfter_succ h) [')'] : depthAfter 1 (cs ++ [')']) = _)

end Balanced

theorem balanced_append {s t : String} (hs : Balanced s.toList) (ht : Balanced t.toList) :
    Balanced (s ++ t).toList := by
  rw [String.toList_append]
  exact hs.append ht

/-! ## Words -/

/-- **The words of a text**, the first of them begun already. -/
def wordsFrom (depth : Nat) (word : List Char) : List Char → List (List Char)
  | [] => [word]
  | c :: cs =>
    if c = ' ' ∧ depth = 0 then word :: wordsFrom 0 [] cs
    else wordsFrom ((nest depth c).getD 0) (word ++ [c]) cs

/-- The words of a text. -/
def words (s : String) : List (List Char) := wordsFrom 0 [] s.toList

theorem wordsFrom_blank {depth : Nat} {cs : List Char} (h : depthAfter depth cs = some 0)
    (word ds : List Char) :
    wordsFrom depth word (cs ++ ' ' :: ds) = wordsFrom depth word cs ++ wordsFrom 0 [] ds := by
  -- The blank is met at depth zero, whatever is open at the beginning.
  induction cs generalizing depth word with
  | nil =>
    cases h
    rfl
  | cons c cs ih =>
    obtain ⟨next, first, rest⟩ := depthAfter_cons h
    rw [List.cons_append, wordsFrom, wordsFrom]
    split
    next parts =>
      obtain ⟨rfl, rfl⟩ := parts
      cases first
      exact congrArg (List.cons word) (ih rest [])
    · rw [first]
      exact ih rest _

/-- Inside of parentheses no word ends. -/
theorem wordsFrom_inside {depth stop : Nat} {cs : List Char} (h : depthAfter depth cs = some stop)
    (word ds : List Char) :
    wordsFrom (depth + 1) word (cs ++ ds) = wordsFrom (stop + 1) (word ++ cs) ds := by
  induction cs generalizing depth word with
  | nil =>
    cases h
    rw [List.append_nil]
    rfl
  | cons c cs ih =>
    obtain ⟨next, first, rest⟩ := depthAfter_cons h
    have inside : ¬(c = ' ' ∧ depth + 1 = 0) := fun both => nomatch both.2
    rw [List.cons_append, wordsFrom, if_neg inside, nest_succ first, Option.getD_some, ih rest,
      List.append_assoc]
    rfl

theorem wordsFrom_ne_nil (depth : Nat) (word cs : List Char) : wordsFrom depth word cs ≠ [] := by
  induction cs generalizing depth word with
  | nil => exact List.cons_ne_nil _ _
  | cons c cs ih =>
    rw [wordsFrom]
    split
    · exact List.cons_ne_nil _ _
    · exact ih _ _

/-- The words of a text give the text back. -/
theorem intercalate_wordsFrom (depth : Nat) (word cs : List Char) :
    [' '].intercalate (wordsFrom depth word cs) = word ++ cs := by
  induction cs generalizing depth word with
  | nil => rw [wordsFrom, List.intercalate_singleton, List.append_nil]
  | cons c cs ih =>
    rw [wordsFrom]
    split
    next parts =>
      obtain ⟨rfl, rfl⟩ := parts
      rw [List.intercalate_cons_of_ne_nil (wordsFrom_ne_nil _ _ _), ih, List.append_assoc]
      rfl
    · rw [ih, List.append_assoc]
      rfl

theorem words_inj {s t : String} (h : words s = words t) : s = t := by
  have same := congrArg [' '].intercalate h
  rw [words, words, intercalate_wordsFrom, intercalate_wordsFrom] at same
  exact String.toList_inj.mp same

theorem words_append {s : String} (h : Balanced s.toList) (t : String) :
    words (s ++ " " ++ t) = words s ++ words t := by
  rw [words, String.toList_append, String.toList_append, List.append_assoc]
  exact wordsFrom_blank h [] t.toList

/-- **A text that is one word** wherever it stands. -/
structure Unbroken (s : String) : Prop where
  balanced : Balanced s.toList
  goes : ∀ word ds, wordsFrom 0 word (s.toList ++ ds) = wordsFrom 0 (word ++ s.toList) ds

/-- A character that neither ends a word nor is a parenthesis. -/
def isSolid (c : Char) : Bool := !(c = ' ' || c = '(' || c = ')')

namespace Unbroken

variable {s t : String}

theorem words_eq (h : Unbroken s) : words s = [s.toList] := by
  have whole := h.goes [] []
  rwa [List.append_nil, List.nil_append] at whole

theorem append (hs : Unbroken s) (ht : Unbroken t) : Unbroken (s ++ t) where
  balanced := by
    rw [String.toList_append]
    exact hs.balanced.append ht.balanced
  goes word ds := by
    rw [String.toList_append, List.append_assoc, hs.goes, ht.goes, List.append_assoc]

theorem ofSolid (h : ∀ c ∈ s.toList, isSolid c = true) : Unbroken s := by
  have depth : ∀ c, isSolid c = true → nest 0 c = some 0 ∧ c ≠ ' ' := by
    intro c solid
    simp only [isSolid, Bool.not_eq_true', Bool.or_eq_false_iff, decide_eq_false_iff_not] at solid
    exact ⟨by rw [nest, if_neg solid.1.2, if_neg solid.2], solid.1.1⟩
  constructor
  · generalize s.toList = cs at h
    induction cs with
    | nil => rfl
    | cons c cs ih =>
      obtain ⟨first, rest⟩ := List.forall_mem_cons.mp h
      exact Option.bind_eq_some_iff.mpr ⟨0, (depth c first).1, ih rest⟩
  · generalize s.toList = cs at h
    induction cs with
    | nil =>
      intro word ds
      rw [List.append_nil]
      rfl
    | cons c cs ih =>
      intro word ds
      obtain ⟨first, rest⟩ := List.forall_mem_cons.mp h
      obtain ⟨stays, other⟩ := depth c first
      rw [List.cons_append, wordsFrom, if_neg (fun both => other both.1), stays, Option.getD_some,
        ih rest, List.append_assoc]
      rfl

/-- What is in parentheses is one word. -/
theorem enclosed (h : Balanced s.toList) : Unbroken ("(" ++ s ++ ")") := by
  have chars : ("(" ++ s ++ ")").toList = '(' :: s.toList ++ [')'] := by
    rw [String.toList_append, String.toList_append]
    rfl
  constructor
  · rw [chars]
    exact h.enclosed
  · intro word ds
    have opened : wordsFrom 0 word ('(' :: s.toList ++ [')'] ++ ds) =
        wordsFrom 1 (word ++ ['(']) (s.toList ++ (')' :: ds)) := by
      rw [List.append_assoc]
      rfl
    rw [chars, opened, wordsFrom_inside h]
    change wordsFrom 0 (word ++ ['('] ++ s.toList ++ [')']) ds = _
    simp only [List.append_assoc, List.cons_append, List.nil_append]

end Unbroken

/-! ## The words of leaves -/

/-- A word that begins unlike any connective. -/
def isAside (word : List Char) : Bool := word.head? != some 'A' && word.head? != some 'O'

/-- **A text of so many words at least**, none of them a connective, that closes its
parentheses. -/
structure Wording (n : Nat) (s : String) : Prop where
  balanced : Balanced s.toList
  long : n ≤ (words s).length
  aside : (words s).all isAside = true

instance (n : Nat) (s : String) : Decidable (Wording n s) :=
  decidable_of_iff (Balanced s.toList ∧ n ≤ (words s).length ∧ (words s).all isAside = true)
    ⟨fun ⟨balanced, long, aside⟩ => ⟨balanced, long, aside⟩,
      fun h => ⟨h.balanced, h.long, h.aside⟩⟩

namespace Wording

variable {m n : Nat} {s t : String}

theorem append (hs : Wording m s) (ht : Wording n t) : Wording (m + n) (s ++ " " ++ t) where
  balanced := by
    have blank : Balanced [' '] := by decide
    rw [String.toList_append, String.toList_append]
    exact (hs.balanced.append blank).append ht.balanced
  long := by
    rw [words_append hs.balanced, List.length_append]
    exact Nat.add_le_add hs.long ht.long
  aside := by
    rw [words_append hs.balanced, List.all_append, hs.aside, ht.aside]
    rfl

theorem mono (h : Wording n s) (le : m ≤ n) : Wording m s :=
  ⟨h.balanced, Nat.le_trans le h.long, h.aside⟩

theorem of_eq (h : Wording n s) (same : s = t) : Wording n t := same ▸ h

theorem ofUnbroken (h : Unbroken s) (aside : isAside s.toList = true) : Wording 1 s where
  balanced := h.balanced
  long := by
    rw [h.words_eq]
    exact Nat.le_refl 1
  aside := by
    rw [h.words_eq, List.all_cons, aside]
    rfl

end Wording

theorem isSolid_of_isNamePart {c : Char} (h : Text.isNamePart c = true) : isSolid c = true := by
  rw [isSolid, Bool.not_eq_true', ← Bool.not_eq_true]
  simp only [Bool.or_eq_true, decide_eq_true_eq]
  rintro ((rfl | rfl) | rfl) <;> exact absurd h (by decide)

theorem unbroken_of_isIdentifier {s : String} (h : Text.isIdentifier s = true) : Unbroken s :=
  .ofSolid fun c mem => isSolid_of_isNamePart (isNamePart_of_mem h c mem)

theorem unbroken_quoteIdentifier {s : String} (h : Text.isIdentifier s = true) :
    Unbroken (quoteIdentifier s) := by
  refine .ofSolid fun c mem => ?_
  rcases mem_quoteIdentifier h c mem with part | rfl
  · exact isSolid_of_isNamePart part
  · rfl

/-- A text of solid characters that is known. -/
theorem unbroken_of_all {s : String} (h : s.toList.all isSolid = true) : Unbroken s :=
  .ofSolid (List.all_eq_true.mp h)

end RunFilter.Sql

namespace RunFilter

open Sql (Balanced Unbroken Wording unbroken_of_all)

namespace Column

variable {d : Dialect} {column : Column}

theorem unbroken_field {table column : String} (table_ok : Text.isIdentifier table = true)
    (column_ok : Text.isIdentifier column = true) :
    Unbroken (Sql.quoteIdentifier table ++ "." ++ Sql.quoteIdentifier column) :=
  ((Sql.unbroken_quoteIdentifier table_ok).append (unbroken_of_all (by decide))).append
    (Sql.unbroken_quoteIdentifier column_ok)

/-- A field is one word, with what may follow it without a blank. -/
theorem wording_field {table column : String} (table_ok : Text.isIdentifier table = true)
    (column_ok : Text.isIdentifier column = true) {rest : String}
    (solid : rest.toList.all Sql.isSolid = true) :
    Wording 1 (Sql.quoteIdentifier table ++ "." ++ Sql.quoteIdentifier column ++ rest) := by
  refine .ofUnbroken ((unbroken_field table_ok column_ok).append (unbroken_of_all solid)) ?_
  simp only [String.toList_append, Sql.quoteIdentifier, String.toList_ofList, List.append_assoc]
  rfl

/-- A call is one word. -/
theorem wording_call {inner : String} (h : Balanced inner.toList) {rest : String}
    (solid : rest.toList.all Sql.isSolid = true) :
    Wording 1 ("IFNULL" ++ ("(" ++ inner ++ ")") ++ rest) := by
  have name : Unbroken "IFNULL" := unbroken_of_all (by decide)
  refine .ofUnbroken ((name.append (.enclosed h)).append (unbroken_of_all solid)) ?_
  rw [String.toList_append, String.toList_append, String.toList_ofList]
  rfl

/-- **A plain column is one word**, or a quotient of three. -/
theorem wording (plain : column.Plain) : Wording 1 (column.fragment d).sql := by
  cases column with
  | field table column =>
    have field := wording_field plain.1 plain.2 (show "".toList.all Sql.isSolid = true by decide)
    rwa [String.append_empty] at field
  | expression sql =>
    obtain ⟨table, table_ok, rfl⟩ := plain
    have named := (Sql.unbroken_of_isIdentifier table_ok).balanced
    have inner : Balanced (table ++ ".end_time - " ++ table ++ ".start_time").toList :=
      Sql.balanced_append (Sql.balanced_append (Sql.balanced_append named (by decide)) named) (by decide)
    have difference :
        Wording 1 ("(" ++ (table ++ ".end_time - " ++ table ++ ".start_time") ++ ")") := by
      refine .ofUnbroken (.enclosed inner) ?_
      rw [String.toList_append, String.toList_append]
      rfl
    have seconds : Wording 2 "/ 1000" := by decide
    have same : "(" ++ (table ++ ".end_time - " ++ table ++ ".start_time") ++ ")" ++ " " ++
        "/ 1000" = "(" ++ table ++ ".end_time - " ++ table ++ ".start_time) / 1000" := by
      simp only [String.append_assoc]
      rfl
    exact ((difference.append seconds).mono (by decide)).of_eq same
  | document table column path =>
    cases d with
    | postgres =>
      have word := wording_field plain.1 plain.2
        (show "#>>?".toList.all Sql.isSolid = true by decide)
      have same : Sql.quoteIdentifier table ++ "." ++ Sql.quoteIdentifier column ++ "#>>?" =
          Sql.quoteIdentifier table ++ "." ++ Sql.quoteIdentifier column ++ "#>>" ++ "?" := by
        simp only [String.append_assoc]
        rfl
      exact word.of_eq same
    | sqlite =>
      have inner := Sql.balanced_append (unbroken_field plain.1 plain.2).balanced
        (show Balanced ", JSON('\x7b\x7d')".toList by decide)
      have call := wording_call inner (show "->>?".toList.all Sql.isSolid = true by decide)
      have same : "IFNULL" ++ ("(" ++ (Sql.quoteIdentifier table ++ "." ++
          Sql.quoteIdentifier column ++ ", JSON('\x7b\x7d')") ++ ")") ++ "->>?" =
          "IFNULL(" ++ (Sql.quoteIdentifier table ++ "." ++ Sql.quoteIdentifier column) ++
            ", JSON('\x7b\x7d'))" ++ "->>" ++ "?" := by
        simp only [String.append_assoc]
        rfl
      exact call.of_eq same

end Column

/-! ## Leaves -/

namespace Test

variable {d : Dialect} {f : Fragment}

theorem wording_ofTest (h : Wording 1 f.sql) {operator : String} (op : Wording 1 operator)
    (value : Value) : Wording 3 (Fragment.ofTest f operator value).sql := by
  have mark : Wording 1 "?" := by decide
  have same : f.sql ++ " " ++ operator ++ " " ++ "?" = f.sql ++ " " ++ operator ++ " ?" := by
    simp only [String.append_assoc]
    rfl
  exact ((h.append op).append mark).of_eq same

theorem wording_ofBool (holds : Bool) : Wording 3 (Fragment.ofBool holds).sql := by
  cases holds <;> decide

theorem wording_comparison (h : Wording 1 f.sql) (op : Operator) (value : Value) :
    Wording 3 (comparison f op value).sql := by
  have sign : Wording 1 op.sql := by cases op <;> decide
  cases value with
  | null =>
    cases op with
    | equal =>
      have isNull : Wording 2 "IS NULL" := by decide
      have same : f.sql ++ " " ++ "IS NULL" = f.sql ++ " IS NULL" := String.append_assoc ..
      exact (h.append isNull).of_eq same
    | notEqual =>
      have isNotNull : Wording 2 "IS NOT NULL" := by decide
      have same : f.sql ++ " " ++ "IS NOT NULL" = f.sql ++ " IS NOT NULL" := String.append_assoc ..
      exact (h.append isNotNull).of_eq same
    | less | greater | lessEqual | greaterEqual | among | notAmong => exact wording_ofTest h sign _
  | bool | int | float | text => exact wording_ofTest h sign _

theorem balanced_marks (values : List Value) :
    Balanced (String.intercalate ", " (values.map fun _ => "?")).toList := by
  induction values with
  | nil => decide
  | cons v values ih =>
    cases values with
    | nil => exact show Balanced (String.intercalate ", " ["?"]).toList by decide
    | cons next values =>
      rw [List.map_cons, List.map_cons, String.intercalate_cons_cons]
      exact Sql.balanced_append (by decide) ih

theorem wording_membership (h : Wording 1 f.sql) (values : List Value) (negated : Bool) :
    Wording 3 (membership f values negated).sql := by
  unfold membership
  split
  · exact wording_ofBool negated
  · have sign : Wording 1 (if negated then Operator.notAmong else .among).sql := by
      cases negated <;> decide
    have list : Wording 1 ("(" ++ String.intercalate ", " (values.map fun _ => "?") ++ ")") := by
      refine .ofUnbroken (.enclosed (balanced_marks values)) ?_
      rw [String.toList_append, String.toList_append]
      rfl
    refine ((h.append sign).append list).of_eq ?_
    simp only [String.append_assoc]
    rfl

/-- **A test of a plain column has three words at least**, inverted or not. -/
theorem wording {column : Column} (plain : column.Plain) (inverted : Bool) (asked : Test) :
    Wording 3 (asked.fragment d column inverted).sql := by
  have target := column.wording (d := d) plain
  cases asked with
  | compare op value => exact wording_comparison target _ value
  | like pattern negated =>
    refine wording_ofTest target ?_ _
    cases inverted != negated <;> decide
  | among values negated => exact wording_membership target values _
  | «matches» pattern negated =>
    cases d with
    | postgres =>
      refine wording_ofTest target ?_ _
      cases inverted != negated <;> decide
    | sqlite =>
      have inner := Sql.balanced_append target.balanced
        (show Balanced ", \x27\x27".toList by decide)
      have call := Column.wording_call inner (show "".toList.all Sql.isSolid = true by decide)
      refine wording_ofTest (call.of_eq ?_) ?_ _
      · simp only [String.append_assoc]
        rfl
      · cases inverted != negated <;> decide

end Test

/-- **A leaf has three words at least**, and none of them is a connective. -/
theorem Sql.IsLeaf.wording {d : Dialect} {f : Fragment} (h : Sql.IsLeaf d f) : Wording 3 f.sql := by
  rcases h with ⟨column, asked, inverted, plain, rfl⟩ | ⟨holds, rfl⟩
  · exact Test.wording plain inverted asked
  · exact Test.wording_ofBool holds

end RunFilter
