import RunFilter.Proofs.Joins.Placement
import RunFilter.Proofs.Truth
import RunFilter.Settings

/-!
# Context tests at the top of a statement

Resolution moves the context tests of a metric to the top where only `and` stands around it. This
module compares it with a resolution that moves nothing: `Condition.tied` is a walk that ties to
every leaf the tests of that leaf's own context.

**The law** (`hoisting_keeps_filter`): both plan the same joins and see the same metrics, and both
results have the same truth value for every valuation of the leaves. The tests at the top are those
of each hoisted join once, in the order of the joins, and below them every leaf stands bare or with
the tests of its own context.

Both walks are compared with `Condition.readOff`, which reads a condition off a finished table
without any state. What hoisting leaves out of it is the conjunction of the tests of the leaves
under `and` alone, and this is an induction over the condition (`truth_readOff_false`). The state
comes in only where a walk is shown to be read off its last table; there the plans grow and stay
faithful.
-/

set_option autoImplicit false

namespace RunFilter

/-! ## Conditions over a finished table -/

namespace JoinTable

/-- The tests of the context that an attribute asks for, in the join that selects it. -/
def ownTests (t : JoinTable) (origin : Origin) : List Predicate :=
  match origin.context? with
  | some (signature, context) => context.tests (t.aliasFor signature)
  | none => []

/-- A leaf with the tests of its own context. -/
def guarded (t : JoinTable) (origin : Origin) (leaf : Predicate) : Predicate :=
  if origin.context?.isSome then .all (t.ownTests origin ++ [leaf]) else leaf

/-- The table with the joins of an attribute. -/
def plan (t : JoinTable) (ref : Reference) : JoinTable :=
  ((⟨t, []⟩ : Plan).place ref.origin).2.joins

/-- The table with the joins of attributes, in their order. -/
def planAll (t : JoinTable) (refs : List Reference) : JoinTable := refs.foldl plan t

end JoinTable

namespace Condition

mutual
/-- The attributes of a condition from left to right. -/
def references : Condition → List Reference
  | .test ref _ _ | .decided ref _ => [ref]
  | .all parts | .any parts => referencesAll parts
  | .negation part => part.references
/-- The attributes of conditions from left to right. -/
def referencesAll : List Condition → List Reference
  | [] => []
  | c :: cs => c.references ++ referencesAll cs
end

mutual
/-- **The attributes around which only `and` stands.** -/
def conjuncts : Condition → List Reference
  | .test ref _ _ | .decided ref _ => [ref]
  | .all parts => conjunctsAll parts
  | .any _ | .negation _ => []
/-- The attributes of conditions around which only `and` stands. -/
def conjunctsAll : List Condition → List Reference
  | [] => []
  | c :: cs => c.conjuncts ++ conjunctsAll cs
end

mutual
/-- **The predicate of a condition over a finished table.** Each leaf carries the tests of its own
context, unless `bare` says that leaves go without them where only `and` stands around. -/
def readOff (t : JoinTable) (bare : Bool) : Condition → Predicate
  | .test ref part asked =>
    let leaf := Predicate.test (part.columnIn (t.tableOf ref.origin)) asked
    if bare then leaf else t.guarded ref.origin leaf
  | .decided ref holds =>
    if bare then .constant holds else t.guarded ref.origin (.constant holds)
  | .all parts => .all (readOffAll t bare parts)
  | .any parts => .any (readOffAll t false parts)
  | .negation part => .negation (part.readOff t false)
/-- The predicates of conditions over a finished table. -/
def readOffAll (t : JoinTable) (bare : Bool) : List Condition → List Predicate
  | [] => []
  | c :: cs => c.readOff t bare :: readOffAll t bare cs
end

mutual
/-- **The predicate of a condition without hoisting**, with the plan of its joins and whether a
metric was met: every leaf is tied to the tests of its own context at once. -/
def tied (plan : Plan) (metric : Bool) : Condition → Predicate × Plan × Bool
  | .test ref part asked =>
    let (placement, plan) := plan.place ref.origin
    let leaf := Predicate.test (part.columnIn placement.table) asked
    (plan.joins.guarded ref.origin leaf, plan, metric || ref.isMetric)
  | .decided ref holds =>
    let (_, plan) := plan.place ref.origin
    (plan.joins.guarded ref.origin (.constant holds), plan, metric || ref.isMetric)
  | .all parts =>
    let (parts, plan, metric) := tiedAll plan metric parts
    (.all parts, plan, metric)
  | .any parts =>
    let (parts, plan, metric) := tiedAll plan metric parts
    (.any parts, plan, metric)
  | .negation part =>
    let (part, plan, metric) := part.tied plan metric
    (.negation part, plan, metric)
/-- The predicates of conditions from left to right, without hoisting. -/
def tiedAll (plan : Plan) (metric : Bool) : List Condition → List Predicate × Plan × Bool
  | [] => ([], plan, metric)
  | c :: cs =>
    let (first, plan, metric) := c.tied plan metric
    let (rest, plan, metric) := tiedAll plan metric cs
    (first :: rest, plan, metric)
end

end Condition

namespace Resolution

/-- **The resolution of a filter without hoisting.** -/
def withoutHoisting (tables : Dictionary) (filter : Filter) : Except SyntaxError Resolution :=
  (filter.condition tables).map fun c =>
    let (predicate, plan, metric) := c.tied .empty false
    { predicate := some predicate
      contextFilters := []
      joins := plan.joins.joins
      referencesMetric := metric }

/-- **What a resolved filter says of a row**: its context tests and its predicate together. -/
def truth (v : Valuation) (r : Resolution) : Truth :=
  Truth.all (Predicate.truths v (r.contextFilters ++ r.predicate.toList))

end Resolution

/-! ## What hoisting leaves out -/

namespace Condition

variable (v : Valuation) (t : JoinTable)

/-- The tests of attributes in their order. -/
def testsOf (refs : List Reference) : List Predicate :=
  refs.flatMap fun ref => t.ownTests ref.origin

theorem truth_guarded (origin : Origin) (leaf : Predicate) :
    (t.guarded origin leaf).truth v =
      (Truth.all (Predicate.truths v (t.ownTests origin))).and (leaf.truth v) := by
  unfold JoinTable.guarded
  split
  · simp only [Predicate.truth, Predicate.truths_append, Truth.all_append, Predicate.truths,
      Truth.all, Truth.and_yes]
  next plain =>
    have none : origin.context? = none := Option.not_isSome_iff_eq_none.mp plain
    simp only [JoinTable.ownTests, none, Predicate.truths, Truth.all, Truth.yes_and]

mutual
/-- **Hoisting leaves out the tests of the leaves under `and` alone**, each of them a conjunct of
the whole condition. -/
theorem truth_readOff_false : ∀ c : Condition,
    (c.readOff t false).truth v =
      (Truth.all (Predicate.truths v (testsOf t c.conjuncts))).and ((c.readOff t true).truth v)
  | .test ref part asked => by
    simp only [readOff, truth_guarded, conjuncts, testsOf, List.flatMap_singleton, if_true,
      Bool.false_eq_true, if_false]
  | .decided ref holds => by
    simp only [readOff, truth_guarded, conjuncts, testsOf, List.flatMap_singleton, if_true,
      Bool.false_eq_true, if_false]
  | .all parts => by
    simp only [readOff, Predicate.truth, conjuncts]
    exact truth_readOffAll_false parts
  | .any parts => by
    simp only [readOff, conjuncts, testsOf, List.flatMap_nil, Predicate.truths, Truth.all,
      Truth.yes_and]
  | .negation part => by
    simp only [readOff, conjuncts, testsOf, List.flatMap_nil, Predicate.truths, Truth.all,
      Truth.yes_and]
theorem truth_readOffAll_false : ∀ cs : List Condition,
    Truth.all (Predicate.truths v (readOffAll t false cs)) =
      (Truth.all (Predicate.truths v (testsOf t (conjunctsAll cs)))).and
        (Truth.all (Predicate.truths v (readOffAll t true cs)))
  | [] => rfl
  | c :: cs => by
    simp only [readOffAll, Predicate.truths, Truth.all, conjunctsAll, testsOf, List.flatMap_append,
      Predicate.truths_append, Truth.all_append]
    rw [truth_readOff_false c, truth_readOffAll_false cs, Truth.and_and_and_comm]
    rfl
end

end Condition

/-! ## Walks and their tables -/

/-- What a plan does to its table does not depend on what is hoisted. -/
theorem Plan.place_joins (plan : Plan) (ref : Reference) :
    (plan.place ref.origin).2.joins = plan.joins.plan ref := by
  unfold JoinTable.plan
  cases ref.origin with
  | table name => rfl
  | keyed runs store key => rfl
  | series runs name context =>
    simp only [place]
    split <;> rfl

namespace JoinTable

variable {t : JoinTable}

theorem le_plan (t : JoinTable) (ref : Reference) : t ≤ t.plan ref :=
  (Plan.place_spec ⟨t, []⟩ ref.origin).1

theorem holds_plan (t : JoinTable) (ref : Reference) : (t.plan ref).Holds ref.origin :=
  (Plan.place_spec ⟨t, []⟩ ref.origin).2.1

theorem Faithful.plan (h : t.Faithful) (ref : Reference) : (t.plan ref).Faithful :=
  @Plan.place_faithful ⟨t, []⟩ h ref.origin

theorem le_planAll (t : JoinTable) (refs : List Reference) : t ≤ t.planAll refs := by
  induction refs generalizing t with
  | nil => exact le_refl t
  | cons ref refs ih => exact le_trans (t.le_plan ref) (ih (t.plan ref))

theorem holds_planAll {refs : List Reference} {ref : Reference} (mem : ref ∈ refs) :
    (t.planAll refs).Holds ref.origin := by
  induction refs generalizing t with
  | nil => cases mem
  | cons first refs ih =>
    rcases List.mem_cons.mp mem with rfl | mem
    · exact (t.holds_plan ref).of_le ((t.plan ref).le_planAll refs)
    · exact ih mem

theorem Faithful.planAll (h : t.Faithful) (refs : List Reference) : (t.planAll refs).Faithful := by
  induction refs generalizing t with
  | nil => exact h
  | cons ref refs ih => exact ih (h.plan ref)

theorem planAll_append (refs more : List Reference) :
    t.planAll (refs ++ more) = (t.planAll refs).planAll more := by
  rw [planAll, planAll, planAll, List.foldl_append]

/-- The tests of an attribute's own context stay the same while the table grows. -/
theorem ownTests_of_le {u : JoinTable} {origin : Origin} (le : t ≤ u) (h : t.Holds origin) :
    u.ownTests origin = t.ownTests origin := by
  unfold ownTests
  cases asked : origin.context? with
  | none => rfl
  | some pair =>
    obtain ⟨signature, context⟩ := pair
    simp only [aliasFor_of_le le (h.context signature context asked)]

/-- **The join of an attribute's context carries the tests of that context.** -/
theorem ownTests_of_stored (h : t.Faithful) {origin : Origin} {index : Nat} {j : Join}
    (selected : t.contextIndex? origin = some index) (stored : t.joins[index]? = some j) :
    t.ownTests origin = j.contextTests := by
  obtain ⟨⟨signature, context⟩, asked, found⟩ := Option.bind_eq_some_iff.mp selected
  have own : (⟨t, []⟩ : Plan).contextTestsAt index = context.tests (t.aliasFor signature) :=
    Plan.contextTestsAt_eq h asked found
  rw [Plan.contextTestsAt, get?, stored] at own
  rw [ownTests, asked]
  exact own.symm

/-- An attribute with tests has a join that selects its context. -/
theorem Holds.stored_of_mem_ownTests {origin : Origin} (h : t.Holds origin) {p : Predicate}
    (mem : p ∈ t.ownTests origin) :
    ∃ index j, t.contextIndex? origin = some index ∧ t.joins[index]? = some j := by
  cases asked : origin.context? with
  | none =>
    rw [ownTests, asked] at mem
    cases mem
  | some pair =>
    obtain ⟨index, found⟩ := Option.isSome_iff_exists.mp (h.context pair.1 pair.2 asked)
    obtain ⟨j, stored, _⟩ := get?_of_index? found
    refine ⟨index, j, ?_, stored⟩
    rw [contextIndex?, asked, Option.bind_some, found]

end JoinTable

/-! ## Resolution as a reading of its last table -/

namespace Plan

variable {plan : Plan}

/-- The index of a leaf's context is the one that its place names. -/
theorem place_context (ref : Reference) :
    (plan.place ref.origin).1.context =
      (plan.place ref.origin).2.joins.contextIndex? ref.origin := by
  rw [(plan.place_spec ref.origin).2.2.1, JoinTable.placement]

/-- **What resolution does with a leaf.** The table grows by the joins of its attribute. The leaf
becomes what it is over any later table, and the index of its context is hoisted if the leaf goes
without the tests. -/
theorem tie_spec (faithful : plan.joins.Faithful) (bare : Bool) (ref : Reference)
    (leaf : Predicate) :
    let placed := plan.place ref.origin
    let tied := placed.2.tie bare placed.1 leaf
    tied.2.joins = placed.2.joins ∧
      tied.1 = (if bare then leaf else placed.2.joins.guarded ref.origin leaf) ∧
      ∀ index, index ∈ tied.2.hoisted ↔ index ∈ plan.hoisted ∨
        bare = true ∧ placed.2.joins.contextIndex? ref.origin = some index := by
  intro placed tied
  have context : placed.1.context = placed.2.joins.contextIndex? ref.origin := place_context ref
  have kept : placed.2.hoisted = plan.hoisted := (plan.place_spec ref.origin).2.2.2
  have holds : placed.2.joins.Holds ref.origin := (plan.place_spec ref.origin).2.1
  cases asked : ref.origin.context? with
  | none =>
    have absent : placed.2.joins.contextIndex? ref.origin = none := by
      rw [JoinTable.contextIndex?, asked, Option.bind_none]
    simp only [tied, tie, context, absent, JoinTable.guarded, asked, Option.isSome_none,
      Bool.false_eq_true, if_false, ite_self, kept, reduceCtorEq, and_false, or_false,
      implies_true, and_self]
  | some pair =>
    obtain ⟨signature, tests⟩ := pair
    obtain ⟨selected, found⟩ := Option.isSome_iff_exists.mp (holds.context signature tests asked)
    have present : placed.2.joins.contextIndex? ref.origin = some selected := by
      rw [JoinTable.contextIndex?, asked, Option.bind_some, found]
    have own : placed.2.contextTestsAt selected = placed.2.joins.ownTests ref.origin := by
      rw [contextTestsAt_eq (place_faithful faithful ref.origin) asked found, JoinTable.ownTests,
        asked]
    cases bare with
    | true =>
      simp only [tied, tie, context, present, if_true, List.mem_cons, kept, Option.some.injEq,
        true_and]
      exact fun index => ⟨fun h => h.elim (fun eq => .inr eq.symm) .inl,
        fun h => h.elim .inr fun eq => .inl eq.symm⟩
    | false =>
      simp only [tied, tie, context, present, Bool.false_eq_true, if_false, kept, own,
        JoinTable.guarded, asked, Option.isSome_some, if_true, false_and, or_false, implies_true,
        and_self]

end Plan

namespace Condition

/-- A leaf over a later table is the leaf over the table that its attribute left. -/
theorem guarded_of_le {t u : JoinTable} {origin : Origin} (le : t ≤ u) (h : t.Holds origin)
    (leaf : Predicate) : u.guarded origin leaf = t.guarded origin leaf := by
  rw [JoinTable.guarded, JoinTable.guarded, JoinTable.ownTests_of_le le h]

mutual
/-- Resolution plans the joins of the attributes in their order. -/
theorem resolve_joins : ∀ (c : Condition) (bare : Bool) (plan : Plan), plan.joins.Faithful →
    (c.resolve bare plan).2.joins = plan.joins.planAll c.references
  | .test ref part asked, bare, plan, faithful => by
    simp only [resolve, (Plan.tie_spec faithful bare ref _).1, Plan.place_joins, references]
    rfl
  | .decided ref holds, bare, plan, faithful => by
    simp only [resolve, (Plan.tie_spec faithful bare ref _).1, Plan.place_joins, references]
    rfl
  | .all parts, bare, plan, faithful => resolveAll_joins parts bare plan faithful
  | .any parts, _, plan, faithful => resolveAll_joins parts false plan faithful
  | .negation part, _, plan, faithful => resolve_joins part false plan faithful
theorem resolveAll_joins : ∀ (cs : List Condition) (bare : Bool) (plan : Plan),
    plan.joins.Faithful →
    (resolveAll bare plan cs).2.joins = plan.joins.planAll (referencesAll cs)
  | [], _, _, _ => rfl
  | c :: cs, bare, plan, faithful => by
    have first := resolve_joins c bare plan faithful
    have rest := resolveAll_joins cs bare (c.resolve bare plan).2
      (first ▸ faithful.planAll c.references)
    simp only [resolveAll, referencesAll, JoinTable.planAll_append]
    rw [rest, first]
end

mutual
/-- **Resolution reads a condition off its last table**, and off every later one. -/
theorem resolve_eq_readOff : ∀ (c : Condition) (bare : Bool) (plan : Plan), plan.joins.Faithful →
    ∀ t, (c.resolve bare plan).2.joins ≤ t → (c.resolve bare plan).1 = c.readOff t bare
  | .test ref part asked, bare, plan, faithful, t, le => by
    obtain ⟨joins, leaf, _⟩ := Plan.tie_spec faithful bare ref
      (.test (part.columnIn (plan.place ref.origin).1.table) asked)
    obtain ⟨_, holds, place, _⟩ := plan.place_spec ref.origin
    have le : (plan.place ref.origin).2.joins ≤ t := joins ▸ le
    have table : (plan.place ref.origin).1.table = t.tableOf ref.origin := by
      rw [place, JoinTable.placement, JoinTable.tableOf_of_le le holds]
    simp only [resolve, readOff, guarded_of_le le holds, ← table, leaf]
  | .decided ref holds, bare, plan, faithful, t, le => by
    obtain ⟨joins, leaf, _⟩ := Plan.tie_spec faithful bare ref (.constant holds)
    have le : (plan.place ref.origin).2.joins ≤ t := joins ▸ le
    simp only [resolve, leaf, readOff, guarded_of_le le (plan.place_spec ref.origin).2.1]
  | .all parts, bare, plan, faithful, t, le => by
    simp only [resolve, readOff, resolveAll_eq_readOffAll parts bare plan faithful t le]
  | .any parts, _, plan, faithful, t, le => by
    simp only [resolve, readOff, resolveAll_eq_readOffAll parts false plan faithful t le]
  | .negation part, _, plan, faithful, t, le => by
    simp only [resolve, readOff, resolve_eq_readOff part false plan faithful t le]
theorem resolveAll_eq_readOffAll : ∀ (cs : List Condition) (bare : Bool) (plan : Plan),
    plan.joins.Faithful → ∀ t, (resolveAll bare plan cs).2.joins ≤ t →
    (resolveAll bare plan cs).1 = readOffAll t bare cs
  | [], _, _, _, _, _ => rfl
  | c :: cs, bare, plan, faithful, t, le => by
    have joins := resolve_joins c bare plan faithful
    have kept : (c.resolve bare plan).2.joins.Faithful := joins ▸ faithful.planAll c.references
    have grown : (c.resolve bare plan).2.joins ≤ t :=
      JoinTable.le_trans (resolveAll_joins cs bare _ kept ▸ JoinTable.le_planAll _ _) le
    simp only [resolveAll, readOffAll, resolve_eq_readOff c bare plan faithful t grown,
      resolveAll_eq_readOffAll cs bare _ kept t le]
end

mutual
theorem conjuncts_subset : ∀ c : Condition, c.conjuncts ⊆ c.references
  | .test _ _ _ | .decided _ _ => List.Subset.refl _
  | .all parts => conjunctsAll_subset parts
  | .any _ | .negation _ => List.nil_subset _
theorem conjunctsAll_subset : ∀ cs : List Condition, conjunctsAll cs ⊆ referencesAll cs
  | [] => List.Subset.refl _
  | c :: cs => by
    rw [conjunctsAll, referencesAll]
    refine List.append_subset.mpr ⟨?_, ?_⟩
    · exact fun _ mem => List.mem_append_left _ (conjuncts_subset c mem)
    · exact fun _ mem => List.mem_append_right _ (conjunctsAll_subset cs mem)
end

mutual
/-- **Resolution hoists the contexts of the attributes under `and` alone**, and no others. -/
theorem mem_hoisted_resolve : ∀ (c : Condition) (bare : Bool) (plan : Plan),
    plan.joins.Faithful → ∀ t, (c.resolve bare plan).2.joins ≤ t →
    ∀ index, index ∈ (c.resolve bare plan).2.hoisted ↔ index ∈ plan.hoisted ∨
      bare = true ∧ ∃ ref ∈ c.conjuncts, t.contextIndex? ref.origin = some index
  | .test ref part asked, bare, plan, faithful, t, le, index => by
    obtain ⟨joins, _, hoisted⟩ := Plan.tie_spec faithful bare ref
      (.test (part.columnIn (plan.place ref.origin).1.table) asked)
    have le : (plan.place ref.origin).2.joins ≤ t := joins ▸ le
    simp only [resolve, hoisted, conjuncts, List.mem_singleton, exists_eq_left,
      JoinTable.contextIndex?_of_le le (plan.place_spec ref.origin).2.1]
  | .decided ref holds, bare, plan, faithful, t, le, index => by
    obtain ⟨joins, _, hoisted⟩ := Plan.tie_spec faithful bare ref (.constant holds)
    have le : (plan.place ref.origin).2.joins ≤ t := joins ▸ le
    simp only [resolve, hoisted, conjuncts, List.mem_singleton, exists_eq_left,
      JoinTable.contextIndex?_of_le le (plan.place_spec ref.origin).2.1]
  | .all parts, bare, plan, faithful, t, le, index =>
    mem_hoisted_resolveAll parts bare plan faithful t le index
  | .any parts, bare, plan, faithful, t, le, index => by
    simp only [resolve, mem_hoisted_resolveAll parts false plan faithful t le index, conjuncts,
      Bool.false_eq_true, false_and, List.not_mem_nil, exists_false, and_false]
  | .negation part, bare, plan, faithful, t, le, index => by
    simp only [resolve, mem_hoisted_resolve part false plan faithful t le index, conjuncts,
      Bool.false_eq_true, false_and, List.not_mem_nil, exists_false, and_false]
theorem mem_hoisted_resolveAll : ∀ (cs : List Condition) (bare : Bool) (plan : Plan),
    plan.joins.Faithful → ∀ t, (resolveAll bare plan cs).2.joins ≤ t →
    ∀ index, index ∈ (resolveAll bare plan cs).2.hoisted ↔ index ∈ plan.hoisted ∨
      bare = true ∧ ∃ ref ∈ conjunctsAll cs, t.contextIndex? ref.origin = some index
  | [], bare, plan, _, t, _, index => by
    simp only [resolveAll, conjunctsAll, List.not_mem_nil, false_and, exists_false, and_false,
      or_false]
  | c :: cs, bare, plan, faithful, t, le, index => by
    have joins := resolve_joins c bare plan faithful
    have kept : (c.resolve bare plan).2.joins.Faithful := joins ▸ faithful.planAll c.references
    have grown : (c.resolve bare plan).2.joins ≤ t :=
      JoinTable.le_trans (resolveAll_joins cs bare _ kept ▸ JoinTable.le_planAll _ _) le
    simp only [resolveAll, conjunctsAll, List.mem_append, or_and_right, exists_or, and_or_left,
      mem_hoisted_resolveAll cs bare _ kept t le index,
      mem_hoisted_resolve c bare plan faithful t grown index, or_assoc]
end

/-! ## The walk without hoisting -/

mutual
/-- The walk without hoisting plans the same joins as resolution. -/
theorem tied_joins : ∀ (c : Condition) (plan : Plan) (metric : Bool),
    (c.tied plan metric).2.1.joins = plan.joins.planAll c.references
  | .test ref part asked, plan, metric => by
    simp only [tied, Plan.place_joins, references]
    rfl
  | .decided ref holds, plan, metric => by
    simp only [tied, Plan.place_joins, references]
    rfl
  | .all parts, plan, metric => tiedAll_joins parts plan metric
  | .any parts, plan, metric => tiedAll_joins parts plan metric
  | .negation part, plan, metric => tied_joins part plan metric
theorem tiedAll_joins : ∀ (cs : List Condition) (plan : Plan) (metric : Bool),
    (tiedAll plan metric cs).2.1.joins = plan.joins.planAll (referencesAll cs)
  | [], _, _ => rfl
  | c :: cs, plan, metric => by
    simp only [tiedAll, referencesAll, JoinTable.planAll_append, tiedAll_joins cs,
      tied_joins c plan metric]
end

mutual
/-- The walk without hoisting meets the metrics that a condition names. -/
theorem tied_metric : ∀ (c : Condition) (plan : Plan) (metric : Bool),
    (c.tied plan metric).2.2 = (metric || c.namesMetric)
  | .test _ _ _, _, _ | .decided _ _, _, _ => rfl
  | .all parts, plan, metric => tiedAll_metric parts plan metric
  | .any parts, plan, metric => tiedAll_metric parts plan metric
  | .negation part, plan, metric => tied_metric part plan metric
theorem tiedAll_metric : ∀ (cs : List Condition) (plan : Plan) (metric : Bool),
    (tiedAll plan metric cs).2.2 = (metric || anyNamesMetric cs)
  | [], _, metric => (Bool.or_false metric).symm
  | c :: cs, plan, metric => by
    simp only [tiedAll, anyNamesMetric, tiedAll_metric cs, tied_metric c, Bool.or_assoc]
end

mutual
/-- The walk without hoisting reads a condition off its last table, each leaf with its tests. -/
theorem tied_eq_readOff : ∀ (c : Condition) (plan : Plan) (metric : Bool) (t : JoinTable),
    (c.tied plan metric).2.1.joins ≤ t → (c.tied plan metric).1 = c.readOff t false
  | .test ref part asked, plan, metric, t, le => by
    obtain ⟨_, holds, place, _⟩ := plan.place_spec ref.origin
    have le : (plan.place ref.origin).2.joins ≤ t := le
    have table : (plan.place ref.origin).1.table = t.tableOf ref.origin := by
      rw [place, JoinTable.placement, JoinTable.tableOf_of_le le holds]
    simp only [tied, readOff, table, guarded_of_le le holds, Bool.false_eq_true, if_false]
  | .decided ref holds, plan, metric, t, le => by
    simp only [tied, readOff, guarded_of_le le (plan.place_spec ref.origin).2.1, Bool.false_eq_true,
      if_false]
  | .all parts, plan, metric, t, le => by
    simp only [tied, readOff, tiedAll_eq_readOffAll parts plan metric t le]
  | .any parts, plan, metric, t, le => by
    simp only [tied, readOff, tiedAll_eq_readOffAll parts plan metric t le]
  | .negation part, plan, metric, t, le => by
    simp only [tied, readOff, tied_eq_readOff part plan metric t le]
theorem tiedAll_eq_readOffAll : ∀ (cs : List Condition) (plan : Plan) (metric : Bool)
    (t : JoinTable), (tiedAll plan metric cs).2.1.joins ≤ t →
    (tiedAll plan metric cs).1 = readOffAll t false cs
  | [], _, _, _, _ => rfl
  | c :: cs, plan, metric, t, le => by
    have grown : (c.tied plan metric).2.1.joins ≤ t :=
      JoinTable.le_trans (tiedAll_joins cs _ _ ▸ JoinTable.le_planAll _ _) le
    simp only [tiedAll, readOffAll, tied_eq_readOff c plan metric t grown,
      tiedAll_eq_readOffAll cs _ _ t le]
end

end Condition

/-! ## The tests at the top -/

namespace Plan

/-- The hoisted joins with their indices. -/
def hoistedJoins (plan : Plan) : List (Join × Nat) :=
  plan.joins.joins.zipIdx.filter fun entry => plan.hoisted.contains entry.2

theorem contextFilters_eq (plan : Plan) :
    plan.contextFilters = plan.hoistedJoins.flatMap fun entry => entry.1.contextTests := by
  have select : ∀ entries : List (Join × Nat),
      (entries.flatMap fun entry =>
        if plan.hoisted.contains entry.2 then entry.1.contextTests else []) =
      (entries.filter fun entry => plan.hoisted.contains entry.2).flatMap fun entry =>
        entry.1.contextTests := by
    intro entries
    induction entries with
    | nil => rfl
    | cons entry entries ih =>
      rw [List.flatMap_cons, List.filter_cons, ih]
      split
      · rw [List.flatMap_cons]
      · rw [List.nil_append]
  exact select _

/-- The hoisted joins stand in the order of their indices, each once. -/
theorem pairwise_hoistedJoins (plan : Plan) :
    plan.hoistedJoins.Pairwise fun a b => a.2 < b.2 := by
  refine List.Pairwise.filter _ (List.pairwise_map.mp ?_)
  rw [List.zipIdx_map_snd]
  exact List.pairwise_lt_range'

theorem mem_hoistedJoins {plan : Plan} {j : Join} {index : Nat} :
    (j, index) ∈ plan.hoistedJoins ↔
      plan.joins.joins[index]? = some j ∧ index ∈ plan.hoisted := by
  rw [hoistedJoins, List.mem_filter, List.mem_zipIdx_iff_getElem?, List.contains_iff_mem]

end Plan

namespace Condition

/-- The hoisted joins are those of the contexts under `and` alone. -/
theorem mem_hoistedJoins_resolve {c : Condition} {j : Join} {index : Nat} :
    (j, index) ∈ (c.resolve true .empty).2.hoistedJoins ↔
      (c.resolve true .empty).2.joins.joins[index]? = some j ∧
        ∃ ref ∈ c.conjuncts,
          (c.resolve true .empty).2.joins.contextIndex? ref.origin = some index := by
  rw [Plan.mem_hoistedJoins, mem_hoisted_resolve c true .empty JoinTable.faithful_empty _
    (JoinTable.le_refl _)]
  simp only [Plan.empty, List.not_mem_nil, false_or, true_and]

/-- The tests at the top are those of the attributes under `and` alone. Two attributes with one
context ask for the same tests, so the tests may occur more often on the right. -/
theorem mem_contextFilters_resolve (c : Condition) (p : Predicate) :
    p ∈ (c.resolve true .empty).2.contextFilters ↔
      p ∈ testsOf (c.resolve true .empty).2.joins c.conjuncts := by
  have joins := resolve_joins c true .empty JoinTable.faithful_empty
  have faithful : (c.resolve true .empty).2.joins.Faithful :=
    joins ▸ JoinTable.faithful_empty.planAll c.references
  have holds : ∀ ref ∈ c.conjuncts, (c.resolve true .empty).2.joins.Holds ref.origin :=
    fun ref mem => joins ▸ JoinTable.holds_planAll (conjuncts_subset c mem)
  rw [Plan.contextFilters_eq, List.mem_flatMap, testsOf, List.mem_flatMap]
  constructor
  · rintro ⟨⟨j, index⟩, hoisted, mem⟩
    obtain ⟨stored, ref, conjunct, selected⟩ := mem_hoistedJoins_resolve.mp hoisted
    refine ⟨ref, conjunct, ?_⟩
    rwa [(JoinTable.ownTests_of_stored faithful selected stored)]
  · rintro ⟨ref, conjunct, mem⟩
    obtain ⟨index, j, selected, stored⟩ := (holds ref conjunct).stored_of_mem_ownTests mem
    refine ⟨(j, index), mem_hoistedJoins_resolve.mpr ⟨stored, ref, conjunct, selected⟩, ?_⟩
    rwa [JoinTable.ownTests_of_stored faithful selected stored] at mem

end Condition

/-! ## The law -/

namespace Resolution

/-- **Hoisting keeps the filter.** The resolution without hoisting accepts what resolution accepts.
Joins, metrics and truth values agree. Each join whose context is asked for under `and` alone has
its tests at the top, once and in the order of the joins; the leaves there stand bare, and all other
leaves carry the tests of their own context. -/
theorem hoisting_keeps_filter (tables : Dictionary) (filter : Filter) (r : Resolution)
    (accepted : ofFilter tables (some filter) = .ok r) :
    ∃ reference c, withoutHoisting tables filter = .ok reference ∧
      filter.condition tables = .ok c ∧
      reference.joins = r.joins ∧ reference.referencesMetric = r.referencesMetric ∧
      (∀ v, r.truth v = reference.truth v) ∧
      (∃ hoisted : List (Join × Nat), hoisted.Pairwise (fun a b => a.2 < b.2) ∧
        (∀ j index, (j, index) ∈ hoisted ↔ r.joins[index]? = some j ∧
          ∃ ref ∈ c.conjuncts, (⟨r.joins⟩ : JoinTable).contextIndex? ref.origin = some index) ∧
        r.contextFilters = hoisted.flatMap fun entry => entry.1.contextTests) ∧
      r.predicate = some (c.readOff ⟨r.joins⟩ true) ∧
      reference.contextFilters = [] ∧ reference.predicate = some (c.readOff ⟨r.joins⟩ false) := by
  change (filter.condition tables).map ofCondition = .ok r at accepted
  unfold withoutHoisting
  cases checked : filter.condition tables with
  | error e =>
    rw [checked] at accepted
    cases accepted
  | ok c =>
    rw [checked] at accepted
    cases accepted
    have joins : (c.tied .empty false).2.1.joins = (c.resolve true .empty).2.joins := by
      rw [Condition.tied_joins, Condition.resolve_joins _ _ _ JoinTable.faithful_empty]
    have below : (c.resolve true .empty).1 = c.readOff (c.resolve true .empty).2.joins true :=
      Condition.resolve_eq_readOff c true .empty JoinTable.faithful_empty _ (JoinTable.le_refl _)
    have whole : (c.tied .empty false).1 = c.readOff (c.resolve true .empty).2.joins false :=
      Condition.tied_eq_readOff c .empty false _ (joins ▸ JoinTable.le_refl _)
    refine ⟨_, c, rfl, rfl, ?_, ?_, fun v => ?_, ?_, ?_, rfl, ?_⟩
    · exact congrArg JoinTable.joins joins
    · exact (Condition.tied_metric c .empty false).trans (Bool.false_or _)
    · simp only [truth, ofCondition, below, whole, Option.toList_some, List.nil_append,
        Predicate.truths_append, Truth.all_append, Predicate.truths, Truth.all, Truth.and_yes]
      rw [Condition.truth_readOff_false,
        Predicate.all_truths_congr v (Condition.mem_contextFilters_resolve c)]
    · exact ⟨_, Plan.pairwise_hoistedJoins _,
        fun j index => Condition.mem_hoistedJoins_resolve, Plan.contextFilters_eq _⟩
    · exact congrArg some below
    · exact congrArg some whole

/-- The loss on one subset, asked for under `and` and once more inside an `or`. -/
def lossOnSubset : Filter :=
  let loss : Filter := .attribute
    { entity := "run"
      field := "metrics"
      subscript := some ⟨"loss", some (.ofList [("subset", "val")])⟩
      member := some "last"
      offset := 0 }
  .both (.comparison loss .less (.literal (.int 1)) 0)
    (.boolean .or [.comparison loss .less (.literal (.int 0)) 0,
      .attribute ⟨"run", "active", none, none, 0⟩])

/-- The context of `lossOnSubset` is hoisted once and tied once, and the filter is kept. -/
theorem hoisting_keeps_lossOnSubset :
    ∃ r, ofFilter Settings.standardTables (some lossOnSubset) = .ok r ∧
      r.contextFilters = [.test (.document "contexts_1" "json" ["subset"])
        (.compare .equal (.text "val"))] ∧
      ∃ reference, withoutHoisting Settings.standardTables lossOnSubset = .ok reference ∧
        reference.joins = r.joins ∧ ∀ v, r.truth v = reference.truth v := by
  refine ⟨_, rfl, rfl, ?_⟩
  obtain ⟨reference, c, resolved, _, joins, _, same, _⟩ :=
    hoisting_keeps_filter Settings.standardTables lossOnSubset _ rfl
  exact ⟨reference, resolved, joins, same⟩

end Resolution

end RunFilter
