import RunFilter.Predicate

/-!
# Truth values of filters

Rows have NULLs, so a test of a column is true, false or unknown. Connectives combine the three
values as Kleene's do: a conjunction is the least of its parts in the order `no`, `unknown`, `yes`,
a disjunction the greatest, and a negation turns the order round. Only two facts about conjunctions
are used later: they may be regrouped (`all_append`), and they depend on nothing but which values
occur (`all_congr`).

What a test of a column says of a row is not decided here. A `Valuation` gives every leaf a value,
and the laws of the library hold for all of them.
-/

set_option autoImplicit false

namespace RunFilter

/-- A truth value of a condition on a row. -/
inductive Truth where
  | no
  | unknown
  | yes
  deriving DecidableEq, Repr

namespace Truth

/-- Negation; what is unknown stays unknown. -/
def not : Truth → Truth
  | no => yes
  | unknown => unknown
  | yes => no

/-- Conjunction, the lesser of two values. -/
def and : Truth → Truth → Truth
  | no, _ | _, no => no
  | unknown, _ | _, unknown => unknown
  | yes, yes => yes

/-- Disjunction, the greater of two values. -/
def or : Truth → Truth → Truth
  | yes, _ | _, yes => yes
  | unknown, _ | _, unknown => unknown
  | no, no => no

/-- The conjunction of a list; nothing is asked by the empty list. -/
def all : List Truth → Truth
  | [] => yes
  | t :: ts => t.and (all ts)

/-- The disjunction of a list. -/
def any : List Truth → Truth
  | [] => no
  | t :: ts => t.or (any ts)

@[simp] theorem not_not (t : Truth) : t.not.not = t := by cases t <;> rfl

@[simp] theorem and_yes (t : Truth) : t.and yes = t := by cases t <;> rfl

@[simp] theorem yes_and (t : Truth) : yes.and t = t := by cases t <;> rfl

@[simp] theorem or_no (t : Truth) : t.or no = t := by cases t <;> rfl

@[simp] theorem and_self (t : Truth) : t.and t = t := by cases t <;> rfl

theorem and_comm (s t : Truth) : s.and t = t.and s := by cases s <;> cases t <;> rfl

theorem and_assoc (s t u : Truth) : (s.and t).and u = s.and (t.and u) := by
  cases s <;> cases t <;> cases u <;> rfl

theorem or_assoc (s t u : Truth) : (s.or t).or u = s.or (t.or u) := by
  cases s <;> cases t <;> cases u <;> rfl

/-- Two pairs of conjuncts may be regrouped. -/
theorem and_and_and_comm (s t u w : Truth) :
    (s.and t).and (u.and w) = (s.and u).and (t.and w) := by
  rw [and_assoc, and_assoc, ← and_assoc t u w, and_comm t u, and_assoc u t w]

/-! ## Lists -/

theorem all_append (ss ts : List Truth) : all (ss ++ ts) = (all ss).and (all ts) := by
  induction ss with
  | nil => simp only [List.nil_append, all, yes_and]
  | cons s ss ih => simp only [List.cons_append, all, ih, and_assoc]

/-- A conjunct that is there already changes nothing. -/
theorem and_all_of_mem {t : Truth} {ts : List Truth} (h : t ∈ ts) : t.and (all ts) = all ts := by
  induction ts with
  | nil => cases h
  | cons s ts ih =>
    rw [all]
    rcases List.mem_cons.mp h with rfl | h
    · rw [← and_assoc, and_self]
    · rw [← and_assoc, and_comm t s, and_assoc, ih h]

/-- Conjuncts that are all there already change nothing. -/
theorem all_and_all_of_subset {ss ts : List Truth} (h : ss ⊆ ts) :
    (all ss).and (all ts) = all ts := by
  induction ss with
  | nil => rw [all, yes_and]
  | cons s ss ih =>
    obtain ⟨head, tail⟩ := List.cons_subset.mp h
    rw [all, and_assoc, ih tail, and_all_of_mem head]

/-- **A conjunction depends only on which values occur in it**, not on their order or number. -/
theorem all_congr {ss ts : List Truth} (h : ∀ t, t ∈ ss ↔ t ∈ ts) : all ss = all ts := by
  calc all ss = (all ts).and (all ss) :=
        (all_and_all_of_subset fun t mem => (h t).mpr mem).symm
    _ = (all ss).and (all ts) := and_comm _ _
    _ = all ts := all_and_all_of_subset fun t mem => (h t).mp mem

end Truth

/-! ## Predicates -/

/-- **A truth value for every leaf**: for every test of a column, and for the two tests that name
no column. -/
structure Valuation where
  test : Column → Test → Truth
  constant : Bool → Truth

namespace Predicate

mutual
/-- **The truth value of a predicate.** -/
def truth (v : Valuation) : Predicate → Truth
  | .test column asked => v.test column asked
  | .constant holds => v.constant holds
  | .all parts => Truth.all (truths v parts)
  | .any parts => Truth.any (truths v parts)
  | .negation part => (part.truth v).not
/-- The truth values of predicates. -/
def truths (v : Valuation) : List Predicate → List Truth
  | [] => []
  | p :: ps => p.truth v :: truths v ps
end

variable (v : Valuation)

theorem truths_eq_map (ps : List Predicate) : truths v ps = ps.map (truth v) := by
  induction ps with
  | nil => rfl
  | cons p ps ih => rw [truths, List.map_cons, ih]

theorem truths_append (ps qs : List Predicate) :
    truths v (ps ++ qs) = truths v ps ++ truths v qs := by
  simp only [truths_eq_map, List.map_append]

/-- A conjunction of predicates depends only on which predicates occur in it. -/
theorem all_truths_congr {ps qs : List Predicate} (h : ∀ p, p ∈ ps ↔ p ∈ qs) :
    Truth.all (truths v ps) = Truth.all (truths v qs) := by
  refine Truth.all_congr fun t => ?_
  simp only [truths_eq_map, List.mem_map, h]

end Predicate

end RunFilter
