import RunFilter.Proofs.Compilation

/-!
# Leaves in their places

A resolved filter has the shape of the filter: every connective becomes one of as many parts, and
every leaf stands where it was written. A place is the list of the positions that lead to a part,
from the outside in (`Filter.at?`, `Predicate.at?`).

**The law** (`exists_at?_of_ofFilter`): at the place of a part of a filter, the predicate has that
part as its condition is read off the joins of the filter. Where the leaves of the part stand bare,
the tests of their contexts are among those at the top.

For leaves on texts and numbers, `exists_carries_of_ofFilter` says this in one word: the leaf
carries its test, with nothing but tests of a context beside it.
-/

set_option autoImplicit false

namespace RunFilter

/-! ## Places -/

namespace Filter

/-- The filters that a connective connects. -/
def operands : Filter → List Filter
  | .boolean _ operands => operands
  | _ => []

/-- **The part of a filter at a place.** -/
def at? : List Nat → Filter → Option Filter
  | [], f => some f
  | position :: place, f => f.operands[position]?.bind (at? place)

end Filter

namespace Condition

/-- The conditions that a connective connects. -/
def parts : Condition → List Condition
  | .all parts | .any parts => parts
  | .negation part => [part]
  | .test .. | .decided .. => []

/-- The part of a condition at a place. -/
def at? : List Nat → Condition → Option Condition
  | [], c => some c
  | position :: place, c => c.parts[position]?.bind (at? place)

end Condition

namespace Predicate

/-- The predicates that a connective connects. -/
def parts : Predicate → List Predicate
  | .all parts | .any parts => parts
  | .negation part => [part]
  | .test .. | .constant _ => []

/-- **The part of a predicate at a place.** -/
def at? : List Nat → Predicate → Option Predicate
  | [], p => some p
  | position :: place, p => p.parts[position]?.bind (at? place)

/-- **A leaf on its own**, or behind tests that are tied to it. -/
inductive Carries (leaf : Predicate) : Predicate → Prop
  | bare : Carries leaf leaf
  | tied (tests : List Predicate) : Carries leaf (.all (tests ++ [leaf]))

end Predicate

/-! ## Parts of a checked filter -/

namespace Filter

variable {tables : Dictionary}

theorem exists_of_conditions {fs : List Filter} {cs : List Condition}
    (h : conditions tables fs = .ok cs) {position : Nat} {f : Filter}
    (written : fs[position]? = some f) :
    ∃ c, cs[position]? = some c ∧ f.condition tables = .ok c := by
  induction fs generalizing cs position with
  | nil => cases written
  | cons g gs ih =>
    obtain ⟨first, checked, h⟩ := bind_eq_ok.mp h
    obtain ⟨rest, checked', h⟩ := bind_eq_ok.mp h
    cases h
    cases position with
    | zero =>
      cases written
      exact ⟨first, rfl, checked⟩
    | succ position => exact ih checked' written

/-- The operands of a checked connective are checked, in their positions. -/
theorem exists_part_of_condition {f g : Filter} {c : Condition} (h : f.condition tables = .ok c)
    {position : Nat} (written : f.operands[position]? = some g) :
    ∃ d, c.parts[position]? = some d ∧ g.condition tables = .ok d := by
  unfold operands at written
  split at written
  next op fs =>
    obtain ⟨parts, checked, h⟩ := bind_eq_ok.mp h
    obtain ⟨d, stored, condition⟩ := exists_of_conditions checked written
    refine ⟨d, ?_, condition⟩
    obtain ⟨_, rfl⟩ | ⟨_, rfl⟩ | ⟨_, part, rfl, rfl⟩ := combine_eq_ok.mp h <;> exact stored
  · cases written

/-- **A part of a checked filter is checked**, and stands in the condition where it was written. -/
theorem exists_at?_of_condition {f g : Filter} {c : Condition} (h : f.condition tables = .ok c)
    {place : List Nat} (written : f.at? place = some g) :
    ∃ d, c.at? place = some d ∧ g.condition tables = .ok d := by
  induction place generalizing f c with
  | nil =>
    cases written
    exact ⟨c, rfl, h⟩
  | cons position place ih =>
    obtain ⟨f', operand, written⟩ := Option.bind_eq_some_iff.mp written
    obtain ⟨c', part, h'⟩ := exists_part_of_condition h operand
    obtain ⟨d, stored, checked⟩ := ih h' written
    exact ⟨d, Option.bind_eq_some_iff.mpr ⟨c', part, stored⟩, checked⟩

end Filter

/-! ## Parts of a resolved filter -/

namespace Condition

variable {t : JoinTable}

theorem getElem?_readOffAll {bare : Bool} {cs : List Condition} {position : Nat} {c : Condition}
    (stored : cs[position]? = some c) :
    (readOffAll t bare cs)[position]? = some (c.readOff t bare) := by
  induction cs generalizing position with
  | nil => cases stored
  | cons d ds ih =>
    cases position with
    | zero =>
      cases stored
      rfl
    | succ position => exact ih stored

theorem conjuncts_subset_conjunctsAll {cs : List Condition} {position : Nat} {c : Condition}
    (stored : cs[position]? = some c) : c.conjuncts ⊆ conjunctsAll cs := by
  induction cs generalizing position with
  | nil => cases stored
  | cons d ds ih =>
    cases position with
    | zero =>
      cases stored
      exact List.subset_append_left _ _
    | succ position => exact List.Subset.trans (ih stored) (List.subset_append_right _ _)

/-- A part is read off as the whole is. Its leaves stand bare only where `and` alone stands around
the part. -/
theorem exists_part_of_readOff (bare : Bool) {c d : Condition} {position : Nat}
    (stored : c.parts[position]? = some d) :
    ∃ bare', (c.readOff t bare).parts[position]? = some (d.readOff t bare') ∧
      (bare' = true → bare = true ∧ d.conjuncts ⊆ c.conjuncts) := by
  cases c with
  | all parts =>
    exact ⟨bare, getElem?_readOffAll stored, fun h => ⟨h, conjuncts_subset_conjunctsAll stored⟩⟩
  | any parts => exact ⟨false, getElem?_readOffAll stored, nofun⟩
  | negation part =>
    obtain ⟨rfl, rfl⟩ : position = 0 ∧ part = d := by
      cases position with
      | zero => exact ⟨rfl, Option.some.inj stored⟩
      | succ position => cases stored
    exact ⟨false, rfl, nofun⟩
  | test | decided => cases stored

/-- **A part of a condition is read off in its place.** -/
theorem exists_at?_of_readOff (bare : Bool) {c d : Condition} {place : List Nat}
    (stored : c.at? place = some d) :
    ∃ bare', (c.readOff t bare).at? place = some (d.readOff t bare') ∧
      (bare' = true → bare = true ∧ d.conjuncts ⊆ c.conjuncts) := by
  induction place generalizing c bare with
  | nil =>
    cases stored
    exact ⟨bare, rfl, fun h => ⟨h, List.Subset.refl _⟩⟩
  | cons position place ih =>
    obtain ⟨c', part, stored⟩ := Option.bind_eq_some_iff.mp stored
    obtain ⟨between, read, above⟩ := exists_part_of_readOff (t := t) bare part
    obtain ⟨bare', below, within⟩ := ih between stored
    refine ⟨bare', Option.bind_eq_some_iff.mpr ⟨_, read, below⟩, fun h => ?_⟩
    obtain ⟨outer, inner⟩ := within h
    exact ⟨(above outer).1, List.Subset.trans inner (above outer).2⟩

/-- A test on a column carries what is asked. -/
theorem carries_readOff (t : JoinTable) (bare : Bool) (ref : Reference) (part : Part)
    (asked : Test) :
    Predicate.Carries (.test (part.columnIn (t.tableOf ref.origin)) asked)
      ((Condition.test ref part asked).readOff t bare) := by
  rw [readOff]
  split
  · exact .bare
  · unfold JoinTable.guarded
    split
    · exact .tied _
    · exact .bare

end Condition

namespace Resolution

variable {tables : Dictionary} {f g : Filter} {r : Resolution}

/-- **A part of a resolved filter is found in its place**, read off the joins of the filter. -/
theorem exists_at?_of_ofFilter (accepted : ofFilter tables (some f) = .ok r) {place : List Nat}
    (written : f.at? place = some g) :
    ∃ d bare, g.condition tables = .ok d ∧
      r.predicate.bind (·.at? place) = some (d.readOff ⟨r.joins⟩ bare) ∧
      (bare = true → ∀ ref ∈ d.conjuncts, JoinTable.ownTests ⟨r.joins⟩ ref.origin ⊆
        r.contextFilters) := by
  obtain ⟨c, checked, rfl⟩ := ofFilter_eq_ok.mp accepted
  obtain ⟨d, stored, condition⟩ := Filter.exists_at?_of_condition checked written
  obtain ⟨bare, read, above⟩ :=
    Condition.exists_at?_of_readOff (t := (c.resolve true .empty).2.joins) true stored
  refine ⟨d, bare, condition, ?_, fun h ref mem test own => ?_⟩
  · rw [ofCondition, Option.bind_some, Condition.resolve_eq_readOff c true .empty
      JoinTable.faithful_empty _ (JoinTable.le_refl _)]
    exact read
  · exact (Condition.mem_contextFilters_resolve c test).mpr
      (List.mem_flatMap.mpr ⟨ref, (above h).2 mem, own⟩)

/-- **A test on a column stands where its leaf was written**, with nothing but tests of a context
beside it. -/
theorem exists_carries_of_ofFilter (accepted : ofFilter tables (some f) = .ok r) {place : List Nat}
    (written : f.at? place = some g) {ref : Reference} {part : Part} {asked : Test}
    (checked : g.condition tables = .ok (.test ref part asked)) :
    ∃ p, r.predicate.bind (·.at? place) = some p ∧
      Predicate.Carries (.test (part.columnIn (JoinTable.tableOf ⟨r.joins⟩ ref.origin)) asked)
        p := by
  obtain ⟨d, bare, condition, stored, _⟩ := exists_at?_of_ofFilter accepted written
  cases condition.symm.trans checked
  exact ⟨_, stored, Condition.carries_readOff ..⟩

end Resolution

end RunFilter
