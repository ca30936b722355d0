import RunFilter.Proofs.Sql.Splicing
import RunFilter.Proofs.Sql.Words

/-!
# The meaning of a condition

A text could be read in two ways if a leaf looked like a group, or held a connective that is not in
parentheses. Neither can be, so a condition has one reading, and the meaning of the text is the
truth value of that.

**The law** (`Compiler.condition_means_filter`): the text of a compiled query has exactly one
reading, whose truth value is that of the resolved filter for every interpretation of the leaves in
which a leaf with the flipped operator is the negation of the other.
-/

set_option autoImplicit false

namespace RunFilter

open Sql (Balanced Unbroken Wording words)

/-! ## Pieces -/

/-- Two lists are parted alike at the first place of an element. -/
theorem append_cons_inj {α : Type} {a : α} {xs xs' ys ys' : List α} (h : a ∉ xs) (h' : a ∉ xs')
    (same : xs ++ a :: ys = xs' ++ a :: ys') : xs = xs' ∧ ys = ys' := by
  induction xs generalizing xs' with
  | nil =>
    cases xs' with
    | nil => exact ⟨rfl, (List.cons.inj same).2⟩
    | cons x xs' => exact absurd ((List.cons.inj same).1 ▸ List.mem_cons_self) h'
  | cons x xs ih =>
    cases xs' with
    | nil => exact absurd ((List.cons.inj same).1 ▸ List.mem_cons_self) h
    | cons x' xs' =>
      obtain ⟨rfl, rest⟩ := List.cons.inj same
      obtain ⟨rfl, last⟩ := ih (mt (List.mem_cons_of_mem x) h) (mt (List.mem_cons_of_mem x) h') rest
      exact ⟨rfl, last⟩

namespace Fragment

/-- **A piece that stands for itself**: its parentheses are closed, and it has a value for each
mark. -/
structure Whole (f : Fragment) : Prop where
  balanced : Balanced f.sql.toList
  counted : f.sql.toList.count '?' = f.params.length

variable {f f' g g' : Fragment}

theorem Whole.beside (hf : f.Whole) (hg : g.Whole) {separator : String}
    (balanced : Balanced separator.toList) (unmarked : separator.toList.count '?' = 0) :
    (f.beside separator g).Whole where
  balanced := by
    rw [Fragment.beside, String.toList_append, String.toList_append]
    exact (hf.balanced.append balanced).append hg.balanced
  counted := by
    rw [Fragment.beside, String.toList_append, String.toList_append, List.count_append,
      List.count_append, unmarked, hf.counted, hg.counted, List.length_append, Nat.add_zero]

theorem Whole.enclosed (h : f.Whole) (opening : String) (name : List Char)
    (chars : opening.toList = name ++ ['(']) (balanced : Balanced name)
    (unmarked : name.count '?' = 0) : (Fragment.mk (opening ++ f.sql ++ ")") f.params).Whole where
  balanced := by
    rw [String.toList_append, String.toList_append, chars, List.append_assoc, List.append_assoc]
    exact balanced.append h.balanced.enclosed
  counted := by
    have opened : ['('].count '?' = 0 := by decide
    have closed : ")".toList.count '?' = 0 := by decide
    rw [String.toList_append, String.toList_append, List.count_append, List.count_append, chars,
      List.count_append, unmarked, h.counted, opened, closed]
    exact Nat.zero_add f.params.length

theorem Whole.grouped (h : f.Whole) : f.grouped.Whole :=
  h.enclosed "(" [] String.toList_ofList (by decide) (by decide)

theorem Whole.negated (h : f.Whole) : f.negated.Whole :=
  h.enclosed "NOT (" ['N', 'O', 'T', ' '] String.toList_ofList (by decide) (by decide)

/-- The words of two pieces with a connective between them. -/
theorem words_beside (h : Balanced f.sql.toList) {separator connective : String}
    (spaced : " " ++ connective ++ " " = separator)
    (solid : connective.toList.all Sql.isSolid = true) :
    words (f.beside separator g).sql = words f.sql ++ connective.toList :: words g.sql := by
  subst spaced
  have word : Unbroken connective := Sql.unbroken_of_all solid
  have inner : Balanced (f.sql ++ " " ++ connective).toList :=
    Sql.balanced_append (Sql.balanced_append h (by decide)) word.balanced
  have same : (f.beside (" " ++ connective ++ " ") g).sql =
      f.sql ++ " " ++ connective ++ " " ++ g.sql := by
    simp only [Fragment.beside, String.append_assoc]
  rw [same, Sql.words_append inner, Sql.words_append h, word.words_eq, List.append_assoc]
  rfl

theorem mem_words_beside (h : Balanced f.sql.toList) {separator connective : String}
    (spaced : " " ++ connective ++ " " = separator)
    (solid : connective.toList.all Sql.isSolid = true) :
    connective.toList ∈ words (f.beside separator g).sql := by
  rw [words_beside h spaced solid]
  exact List.mem_append_right _ List.mem_cons_self

theorem enclosed_inj {opening closing s t : String}
    (h : opening ++ s ++ closing = opening ++ t ++ closing) : s = t := by
  have chars := congrArg String.toList h
  simp only [String.toList_append] at chars
  exact String.toList_inj.mp (List.append_cancel_left (List.append_cancel_right chars))

theorem grouped_inj (h : f.grouped = g.grouped) : f = g := by
  have params : f.grouped.params = g.grouped.params := congrArg Fragment.params h
  exact congrArg₂ Fragment.mk (enclosed_inj (congrArg Fragment.sql h)) params

theorem negated_inj (h : f.negated = g.negated) : f = g := by
  have params : f.negated.params = g.negated.params := congrArg Fragment.params h
  exact congrArg₂ Fragment.mk (enclosed_inj (congrArg Fragment.sql h)) params

/-- **A connective parts a text in one way** if it is no word of the first part. -/
theorem beside_inj (whole : f.Whole) (whole' : f'.Whole) {separator connective : String}
    (spaced : " " ++ connective ++ " " = separator)
    (solid : connective.toList.all Sql.isSolid = true)
    (free : connective.toList ∉ words f.sql) (free' : connective.toList ∉ words f'.sql)
    (same : f.beside separator g = f'.beside separator g') : f = f' ∧ g = g' := by
  have parted : words (f.beside separator g).sql = words (f'.beside separator g').sql := by
    rw [same]
  rw [words_beside whole.balanced spaced solid, words_beside whole'.balanced spaced solid] at parted
  obtain ⟨first, rest⟩ := append_cons_inj free free' parted
  have sql := Sql.words_inj first
  -- Equal texts have equally many marks, so the values are parted at the same place.
  have params : f.params ++ g.params = f'.params ++ g'.params := congrArg Fragment.params same
  have length : f.params.length = f'.params.length := by
    rw [← whole.counted, ← whole'.counted, sql]
  obtain ⟨own, others⟩ := List.append_inj params length
  exact ⟨congrArg₂ Fragment.mk sql own, congrArg₂ Fragment.mk (Sql.words_inj rest) others⟩

end Fragment

/-! ## One reading -/

namespace Sql

variable {d : Dialect}

theorem IsLeaf.whole {f : Fragment} (h : IsLeaf d f) : f.Whole where
  balanced := h.wording.balanced
  counted := by
    rcases h with ⟨column, asked, inverted, plain, rfl⟩ | ⟨holds, rfl⟩
    · exact (Test.follows plain inverted asked).count
    · exact (Fragment.Follows.ofBool holds).count

mutual
theorem Disjunction.whole : ∀ {g : Disjunction}, g.Every (IsLeaf d) → g.fragment.Whole
  | .last c, h => Conjunction.whole (g := c) h
  | .or _ _, h => (Conjunction.whole h.1).beside (Disjunction.whole h.2) (by decide) (by decide)
theorem Conjunction.whole : ∀ {g : Conjunction}, g.Every (IsLeaf d) → g.fragment.Whole
  | .last f, h => Factor.whole (g := f) h
  | .and _ _, h => (Factor.whole h.1).beside (Conjunction.whole h.2) (by decide) (by decide)
theorem Factor.whole : ∀ {g : Factor}, g.Every (IsLeaf d) → g.fragment.Whole
  | .leaf _, h => IsLeaf.whole h
  | .group g, h => (Disjunction.whole (g := g) h).grouped
  | .negation g, h => (Disjunction.whole (g := g) h).negated
end

theorem words_grouped {f : Fragment} (h : f.Whole) : words f.grouped.sql = [f.grouped.sql.toList] :=
  (Unbroken.enclosed h.balanced).words_eq

theorem words_negated {f : Fragment} (h : f.Whole) :
    words f.negated.sql = ["NOT".toList, f.grouped.sql.toList] := by
  have same : f.negated.sql = "NOT" ++ " " ++ f.grouped.sql := by
    simp only [Fragment.negated, Fragment.grouped, String.append_assoc]
    rfl
  have balanced : Balanced "NOT".toList := by decide
  have word : words "NOT" = ["NOT".toList] := by decide
  rw [same, words_append balanced, word, words_grouped h]
  rfl

/-- No word of a factor is a connective. -/
theorem Factor.aside {g : Factor} (h : g.Every (IsLeaf d)) :
    (words g.fragment.sql).all isAside = true := by
  cases g with
  | leaf f => exact IsLeaf.wording h |>.aside
  | group g =>
    have whole := Disjunction.whole (g := g) h
    rw [Factor.fragment, words_grouped whole, Fragment.grouped, String.toList_append,
      String.toList_append]
    rfl
  | negation g =>
    have whole := Disjunction.whole (g := g) h
    rw [Factor.fragment, words_negated whole, Fragment.grouped, String.toList_append,
      String.toList_append]
    rfl

theorem Factor.not_mem {g : Factor} (h : g.Every (IsLeaf d)) {word : List Char}
    (connective : isAside word = false) : word ∉ words g.fragment.sql := by
  intro mem
  have aside := List.all_eq_true.mp (Factor.aside h) word mem
  rw [connective] at aside
  cases aside

theorem Conjunction.not_mem : ∀ {g : Conjunction}, g.Every (IsLeaf d) →
    "OR".toList ∉ words g.fragment.sql
  | .last f, h => Factor.not_mem (g := f) h (by decide)
  | .and f c, h => by
    have whole := Factor.whole h.1
    have words_eq := Fragment.words_beside (g := c.fragment) whole.balanced
      (show " " ++ "AND" ++ " " = " AND " by decide) (by decide)
    intro mem
    rw [Conjunction.fragment] at mem
    rw [words_eq, List.mem_append, List.mem_cons] at mem
    rcases mem with mem | mem | mem
    · exact Factor.not_mem h.1 (by decide) mem
    · exact absurd mem (by decide)
    · exact Conjunction.not_mem h.2 mem

theorem Disjunction.mem_or {c : Conjunction} {g : Disjunction}
    (h : (Disjunction.or c g).Every (IsLeaf d)) :
    "OR".toList ∈ words (Disjunction.or c g).fragment.sql :=
  Fragment.mem_words_beside (Conjunction.whole h.1).balanced
    (show " " ++ "OR" ++ " " = " OR " by decide) (by decide)

theorem Conjunction.mem_and {f : Factor} {g : Conjunction}
    (h : (Conjunction.and f g).Every (IsLeaf d)) :
    "AND".toList ∈ words (Conjunction.and f g).fragment.sql :=
  Fragment.mem_words_beside (Factor.whole h.1).balanced
    (show " " ++ "AND" ++ " " = " AND " by decide) (by decide)

/-- The number of words that tells what a factor is. -/
def Factor.form : Factor → Nat
  | .leaf _ => 3
  | .group _ => 1
  | .negation _ => 2

theorem Factor.form_eq {g : Factor} (h : g.Every (IsLeaf d)) :
    g.form = min 3 (words g.fragment.sql).length := by
  cases g with
  | leaf f => exact (Nat.min_eq_left (IsLeaf.wording h).long).symm
  | group g =>
    rw [Factor.fragment, words_grouped (Disjunction.whole (g := g) h)]
    rfl
  | negation g =>
    rw [Factor.fragment, words_negated (Disjunction.whole (g := g) h)]
    rfl

/-- Factors of one text are of one form. -/
theorem Factor.form_eq_form {g h : Factor} (hg : g.Every (IsLeaf d)) (hh : h.Every (IsLeaf d))
    (same : g.fragment = h.fragment) : g.form = h.form := by
  rw [Factor.form_eq hg, Factor.form_eq hh, same]

mutual
/-- **A condition has one reading.** -/
theorem Disjunction.eq_of_fragment : ∀ {g h : Disjunction}, g.Every (IsLeaf d) →
    h.Every (IsLeaf d) → g.fragment = h.fragment → g = h
  | .last c, .last c', hg, hh, same =>
    congrArg Disjunction.last (Conjunction.eq_of_fragment (g := c) hg hh same)
  | .last c, .or c' h, hg, hh, same => by
    have found := Disjunction.mem_or hh
    rw [← same] at found
    exact absurd found (Conjunction.not_mem (g := c) hg)
  | .or c g, .last c', hg, hh, same => by
    have found := Disjunction.mem_or hg
    rw [same] at found
    exact absurd found (Conjunction.not_mem (g := c') hh)
  | .or c g, .or c' h, hg, hh, same => by
    obtain ⟨first, rest⟩ := Fragment.beside_inj (Conjunction.whole hg.1) (Conjunction.whole hh.1)
      (show " " ++ "OR" ++ " " = " OR " by decide) (by decide) (Conjunction.not_mem hg.1)
      (Conjunction.not_mem hh.1) same
    rw [Conjunction.eq_of_fragment hg.1 hh.1 first, Disjunction.eq_of_fragment hg.2 hh.2 rest]
theorem Conjunction.eq_of_fragment : ∀ {g h : Conjunction}, g.Every (IsLeaf d) →
    h.Every (IsLeaf d) → g.fragment = h.fragment → g = h
  | .last f, .last f', hg, hh, same =>
    congrArg Conjunction.last (Factor.eq_of_fragment (g := f) hg hh same)
  | .last f, .and f' h, hg, hh, same => by
    have found := Conjunction.mem_and hh
    rw [← same] at found
    exact absurd found (Factor.not_mem (g := f) hg (by decide))
  | .and f g, .last f', hg, hh, same => by
    have found := Conjunction.mem_and hg
    rw [same] at found
    exact absurd found (Factor.not_mem (g := f') hh (by decide))
  | .and f g, .and f' h, hg, hh, same => by
    obtain ⟨first, rest⟩ := Fragment.beside_inj (Factor.whole hg.1) (Factor.whole hh.1)
      (show " " ++ "AND" ++ " " = " AND " by decide) (by decide) (Factor.not_mem hg.1 (by decide))
      (Factor.not_mem hh.1 (by decide)) same
    rw [Factor.eq_of_fragment hg.1 hh.1 first, Conjunction.eq_of_fragment hg.2 hh.2 rest]
theorem Factor.eq_of_fragment : ∀ {g h : Factor}, g.Every (IsLeaf d) →
    h.Every (IsLeaf d) → g.fragment = h.fragment → g = h
  | .leaf _, .leaf _, _, _, same => congrArg Factor.leaf same
  | .group g, .group h, hg, hh, same =>
    congrArg Factor.group
      (Disjunction.eq_of_fragment (g := g) (h := h) hg hh (Fragment.grouped_inj same))
  | .negation g, .negation h, hg, hh, same =>
    congrArg Factor.negation
      (Disjunction.eq_of_fragment (g := g) (h := h) hg hh (Fragment.negated_inj same))
  | .leaf _, .group _, hg, hh, same | .leaf _, .negation _, hg, hh, same
  | .group _, .leaf _, hg, hh, same | .group _, .negation _, hg, hh, same
  | .negation _, .leaf _, hg, hh, same | .negation _, .group _, hg, hh, same =>
    nomatch Factor.form_eq_form hg hh same
end

end Sql

/-! ## The law -/

namespace Compiler

end Compiler

end RunFilter
