import RunFilter.Proofs.Joins.ContextDocument
import RunFilter.Resolution

/-!
# Where attributes are placed

Joins are planned while a filter is walked, and a plan only grows. So the place of an attribute can
be read off any later table, the finished one among them (`place_spec`, `tableOf_of_le`), and no
statement about a resolved filter has to speak of the plan at the time.

A table is `Faithful` if the join under the signature of a context has that context. Planning keeps
tables faithful, and in a faithful table the join that selects the context of a reference has that
reference's own context and no other (`contextTestsAt_eq`): the signature tells the context.
-/

set_option autoImplicit false

namespace RunFilter

/-! ## Tables that grow -/

namespace JoinTable

/-- A table that has the joins of another at their indices, and perhaps more. -/
instance : LE JoinTable := ⟨fun t u => t.joins <+: u.joins⟩

theorem le_refl (t : JoinTable) : t ≤ t := List.prefix_refl t.joins

theorem le_trans {t u w : JoinTable} (h : t ≤ u) (h' : u ≤ w) : t ≤ w := List.IsPrefix.trans h h'

variable {t u : JoinTable} {signature : String} {index : Nat}

/-- An index that was found stays the index. -/
theorem index?_of_le (le : t ≤ u) (found : t.index? signature = some index) :
    u.index? signature = some index := by
  obtain ⟨more, eq⟩ := le
  rw [index?] at found ⊢
  rw [← eq, List.findIdx?_append, found]
  rfl

theorem get?_of_le (le : t ≤ u) {j : Join} (found : t.get? index = some j) :
    u.get? index = some j := by
  obtain ⟨more, eq⟩ := le
  rw [get?] at found ⊢
  rw [← eq, List.getElem?_append_left (List.getElem?_eq_some_iff.mp found).1, found]

/-- The index of a signature is that of a join with the signature. -/
theorem get?_of_index? (found : t.index? signature = some index) :
    ∃ j, t.get? index = some j ∧ j.signature = signature := by
  obtain ⟨bound, same, _⟩ := List.findIdx?_eq_some_iff_getElem.mp found
  exact ⟨t.joins[index], List.getElem?_eq_getElem bound, of_decide_eq_true same⟩

/-- **What a request does.** The table grows, the answer is the index of the signature, and the
only join that can be new is the one that was built for it. -/
theorem allocate_spec (t : JoinTable) (signature : String) (build : Nat → Join) :
    t ≤ (t.allocate signature build).2 ∧
      (t.allocate signature build).2.index? signature = some (t.allocate signature build).1 ∧
      ∀ j ∈ (t.allocate signature build).2.joins,
        j ∈ t.joins ∨ j = { build t.joins.length with signature } := by
  unfold allocate
  cases found : t.index? signature with
  | some index => exact ⟨le_refl t, found, fun j mem => .inl mem⟩
  | none =>
    refine ⟨List.prefix_append _ _, ?_, fun j mem => ?_⟩
    · rw [index?] at found ⊢
      rw [List.findIdx?_append, found]
      simp only [List.findIdx?_cons, decide_true, Option.map_some, Option.none_or, Nat.zero_add,
        if_true]
    · exact (List.mem_append.mp mem).imp id List.mem_singleton.mp

end JoinTable

/-! ## The place of an attribute in a table -/

namespace Origin

/-- The signature of the join that selects the context of a metric. -/
def contextSignature (name : String) (context : Dictionary) : String :=
  "contexts:" ++ seriesSignature name context

/-- The context that an attribute asks for, if it asks for one, with the signature of its join. -/
def context? : Origin → Option (String × Dictionary)
  | .series _ name context =>
    if context.isEmpty then none else some (contextSignature name context, context)
  | .table _ | .keyed .. => none

/-- The signature of the join that an attribute needs, that of its context aside. -/
def signature? : Origin → Option String
  | .table _ => none
  | .keyed _ store key => some (keyedSignature store key)
  | .series _ name context => some (seriesSignature name context)

/-- An attribute with a context is a metric. -/
theorem series_of_context? {origin : Origin} {signature : String} {context : Dictionary}
    (h : origin.context? = some (signature, context)) :
    ∃ runs name, origin = .series runs name context ∧ context.isEmpty = false ∧
      signature = contextSignature name context := by
  cases origin with
  | table name => cases h
  | keyed runs store key => cases h
  | series runs name context =>
    simp only [context?] at h
    split at h
    · cases h
    next filled =>
      cases h
      exact ⟨runs, name, rfl, Bool.eq_false_iff.mpr filled, rfl⟩

end Origin

namespace JoinTable

/-- The name of the join with a signature. -/
def aliasFor (t : JoinTable) (signature : String) : String :=
  match (t.index? signature).bind t.get? with
  | some j => j.aliasName
  | none => ""

/-- The table in which an attribute is found, or the name of the join that it is found in. -/
def tableOf (t : JoinTable) : Origin → String
  | .table name => name
  | .keyed _ store key => t.aliasFor (Origin.keyedSignature store key)
  | .series _ name context => t.aliasFor (Origin.seriesSignature name context)

/-- The index of the join that selects the context of an attribute. -/
def contextIndex? (t : JoinTable) (origin : Origin) : Option Nat :=
  origin.context?.bind fun asked => t.index? asked.1

/-- **The place of an attribute in a table** that has its joins. -/
def placement (t : JoinTable) (origin : Origin) : Placement :=
  ⟨t.tableOf origin, t.contextIndex? origin⟩

/-- The table has the joins that an attribute needs. -/
structure Holds (t : JoinTable) (origin : Origin) : Prop where
  join : ∀ signature, origin.signature? = some signature → (t.index? signature).isSome
  context : ∀ signature context, origin.context? = some (signature, context) →
    (t.index? signature).isSome

variable {t u : JoinTable}

theorem isSome_index?_of_le {signature : String} (le : t ≤ u) (h : (t.index? signature).isSome) :
    (u.index? signature).isSome := by
  obtain ⟨index, found⟩ := Option.isSome_iff_exists.mp h
  rw [index?_of_le le found]
  rfl

theorem Holds.of_le {origin : Origin} (le : t ≤ u) (h : t.Holds origin) : u.Holds origin :=
  ⟨fun s eq => isSome_index?_of_le le (h.join s eq),
    fun s c eq => isSome_index?_of_le le (h.context s c eq)⟩

/-- The name under a signature is that of a join. -/
theorem exists_aliasFor {signature : String} (found : (t.index? signature).isSome) :
    ∃ j ∈ t.joins, j.aliasName = t.aliasFor signature := by
  obtain ⟨index, found⟩ := Option.isSome_iff_exists.mp found
  obtain ⟨j, stored, _⟩ := get?_of_index? found
  refine ⟨j, List.mem_of_getElem? stored, ?_⟩
  rw [aliasFor, found, Option.bind_some, stored]

theorem aliasFor_of_le {signature : String} (le : t ≤ u) (h : (t.index? signature).isSome) :
    u.aliasFor signature = t.aliasFor signature := by
  obtain ⟨index, found⟩ := Option.isSome_iff_exists.mp h
  obtain ⟨j, stored, _⟩ := get?_of_index? found
  simp only [aliasFor, found, index?_of_le le found, Option.bind_some, stored,
    get?_of_le le stored]

theorem tableOf_of_le {origin : Origin} (le : t ≤ u) (h : t.Holds origin) :
    u.tableOf origin = t.tableOf origin := by
  cases origin with
  | table name => rfl
  | keyed runs store key => rw [tableOf, tableOf, aliasFor_of_le le (h.join _ rfl)]
  | series runs name context => rw [tableOf, tableOf, aliasFor_of_le le (h.join _ rfl)]

theorem contextIndex?_of_le {origin : Origin} (le : t ≤ u) (h : t.Holds origin) :
    u.contextIndex? origin = t.contextIndex? origin := by
  unfold contextIndex?
  cases asked : origin.context? with
  | none => rfl
  | some pair =>
    obtain ⟨signature, context⟩ := pair
    obtain ⟨index, found⟩ := Option.isSome_iff_exists.mp (h.context signature context asked)
    simp only [Option.bind_some, found, index?_of_le le found]

end JoinTable

/-! ## Planning -/

namespace Plan

variable (plan : Plan)

/-- The name found at an index is the one found under its signature. -/
theorem aliasAt_eq {signature : String} {index : Nat}
    (found : plan.joins.index? signature = some index) :
    plan.aliasAt index = plan.joins.aliasFor signature := by
  cases stored : plan.joins.get? index with
  | none => simp only [aliasAt, JoinTable.aliasFor, found, Option.bind_some, stored]
  | some j => simp only [aliasAt, JoinTable.aliasFor, found, Option.bind_some, stored]

/-- What a plan does for a signature. -/
theorem join_spec (signature : String) (build : Nat → Join) :
    plan.joins ≤ (plan.join signature build).2.joins ∧
      (plan.join signature build).2.joins.index? signature =
        some (plan.join signature build).1 ∧
      (plan.join signature build).2.hoisted = plan.hoisted := by
  obtain ⟨le, found, _⟩ := plan.joins.allocate_spec signature build
  exact ⟨le, found, rfl⟩

/-- **What a plan does for an attribute.** It answers with the place of the attribute in the table
that it leaves, which has grown by the joins of the attribute; nothing is hoisted. -/
theorem place_spec (origin : Origin) :
    plan.joins ≤ (plan.place origin).2.joins ∧
      (plan.place origin).2.joins.Holds origin ∧
      (plan.place origin).1 = (plan.place origin).2.joins.placement origin ∧
      (plan.place origin).2.hoisted = plan.hoisted := by
  cases origin with
  | table name =>
    exact ⟨JoinTable.le_refl _, ⟨fun _ eq => (nomatch eq), fun _ _ eq => (nomatch eq)⟩, rfl, rfl⟩
  | keyed runs store key =>
    obtain ⟨le, found, same⟩ := plan.join_spec (Origin.keyedSignature store key)
      (Join.ofKey store.table store.table runs key)
    simp only [place]
    refine ⟨le, ⟨fun s eq => ?_, fun _ _ eq => (nomatch eq)⟩, ?_, same⟩
    · cases eq
      exact Option.isSome_of_eq_some found
    · rw [aliasAt_eq _ found]
      rfl
  | series runs name context =>
    obtain ⟨le, found, same⟩ := plan.join_spec (Origin.seriesSignature name context)
      (Join.ofKey "metrics" latestMetricsTable runs name)
    simp only [place]
    revert le found same
    generalize plan.join (Origin.seriesSignature name context)
      (Join.ofKey "metrics" latestMetricsTable runs name) = first
    obtain ⟨index, middle⟩ := first
    intro le found same
    by_cases empty : context.isEmpty
    · simp only [if_pos empty]
      refine ⟨le, ⟨fun s eq => ?_, fun s c eq => ?_⟩, ?_, same⟩
      · cases eq
        exact Option.isSome_of_eq_some found
      · simp only [Origin.context?, if_pos empty] at eq
        cases eq
      · rw [aliasAt_eq _ found]
        simp only [JoinTable.placement, JoinTable.tableOf, JoinTable.contextIndex?,
          Origin.context?, if_pos empty, Option.bind_none]
    · simp only [if_neg empty]
      obtain ⟨le', found', same'⟩ := middle.join_spec
        ("contexts:" ++ Origin.seriesSignature name context)
        (Join.ofContext (middle.aliasAt index) context)
      refine ⟨JoinTable.le_trans le le', ⟨fun s eq => ?_, fun s c eq => ?_⟩, ?_, same'.trans same⟩
      · cases eq
        exact Option.isSome_of_eq_some (JoinTable.index?_of_le le' found)
      · simp only [Origin.context?, if_neg empty] at eq
        cases eq
        exact Option.isSome_of_eq_some found'
      · have kept := JoinTable.aliasFor_of_le le' (Option.isSome_of_eq_some found)
        have named : middle.aliasAt index = _ := (aliasAt_eq _ found).trans kept.symm
        simp only [JoinTable.placement, JoinTable.tableOf, JoinTable.contextIndex?,
          Origin.context?, if_neg empty, Option.bind_some, Origin.contextSignature, found',
          Placement.mk.injEq, and_true]
        exact named

end Plan

/-! ## Contexts -/

/-- The tests that select a context in the join of a name, one for each key. -/
def Dictionary.tests (aliasName : String) (context : Dictionary) : List Predicate :=
  context.entries.map fun (key, value) =>
    .test (.document aliasName contextColumn (documentPath key)) (.compare .equal (.text value))

namespace JoinTable

/-- **The join under the signature of a context has that context.** -/
def Faithful (t : JoinTable) : Prop :=
  ∀ j ∈ t.joins, ∀ name context, context.isEmpty = false →
    j.signature = Origin.contextSignature name context → j.context = context

/-- Signatures of contexts tell the contexts. -/
theorem contextSignature_inj {name name' : String} {context context' : Dictionary}
    (filled : context.isEmpty = false) (filled' : context'.isEmpty = false)
    (h : Origin.contextSignature name context = Origin.contextSignature name' context') :
    name = name' ∧ context = context' := by
  have chars := congrArg String.toList h
  simp only [Origin.contextSignature, Origin.seriesSignature, filled, filled', Bool.false_eq_true,
    if_false, String.toList_append, Json.toList_compact_ofDictionary, List.append_assoc,
    List.append_cancel_left_eq] at chars
  obtain ⟨same, equal⟩ := Json.named_document_inj chars
  exact ⟨String.toList_inj.mp same, equal⟩

/-- A signature of a context is told from all others by its first letter. -/
theorem contextSignature_ne {c : Char} {s : String} (h : s.toList.head? = some c) (ne : c ≠ 'c')
    (name : String) (context : Dictionary) : s ≠ Origin.contextSignature name context := by
  rintro rfl
  rw [Origin.contextSignature, String.toList_append] at h
  exact ne (Option.some.inj h).symm

theorem head?_keyedSignature (store : KeyStore) (key : String) :
    ∃ c, (Origin.keyedSignature store key).toList.head? = some c ∧ c ≠ 'c' := by
  cases store
  · exact ⟨'t', by rw [Origin.keyedSignature, String.toList_append, String.toList_append]; rfl,
      by decide⟩
  · exact ⟨'p', by rw [Origin.keyedSignature, String.toList_append, String.toList_append]; rfl,
      by decide⟩

theorem head?_seriesSignature (name : String) (context : Dictionary) :
    (Origin.seriesSignature name context).toList.head? = some 'm' := by
  unfold Origin.seriesSignature
  split
  · rw [String.toList_append]
    rfl
  · rw [String.toList_append, String.toList_append, String.toList_append]
    rfl

theorem faithful_empty : empty.Faithful := fun _ mem => (List.not_mem_nil mem).elim

/-- A request keeps a table faithful if it is not for a context, or for the context that it
builds. -/
theorem Faithful.allocate {t : JoinTable} (h : t.Faithful) {signature : String}
    {build : Nat → Join}
    (fits : ∀ index name context, context.isEmpty = false →
      signature = Origin.contextSignature name context → (build index).context = context) :
    (t.allocate signature build).2.Faithful := by
  intro j mem name context filled eq
  rcases (t.allocate_spec signature build).2.2 j mem with old | rfl
  · exact h j old name context filled eq
  · exact fits _ name context filled eq

end JoinTable

namespace Plan

/-- **Planning keeps tables faithful.** -/
theorem place_faithful {plan : Plan} (h : plan.joins.Faithful) (origin : Origin) :
    (plan.place origin).2.joins.Faithful := by
  cases origin with
  | table name => exact h
  | keyed runs store key =>
    obtain ⟨c, head, ne⟩ := JoinTable.head?_keyedSignature store key
    exact h.allocate fun _ name context _ eq =>
      absurd eq (JoinTable.contextSignature_ne head ne name context)
  | series runs name context =>
    have metric : (plan.join (Origin.seriesSignature name context)
        (Join.ofKey "metrics" latestMetricsTable runs name)).2.joins.Faithful :=
      h.allocate fun _ name' context' _ eq => absurd eq
        (JoinTable.contextSignature_ne (JoinTable.head?_seriesSignature name context) (by decide)
          name' context')
    simp only [place]
    by_cases empty : context.isEmpty
    · simpa only [if_pos empty] using metric
    · simp only [if_neg empty]
      exact metric.allocate fun _ name' context' filled eq =>
        (JoinTable.contextSignature_inj (Bool.eq_false_iff.mpr empty) filled eq).2

/-- **The tests at the join of a reference's context are those of its own context.** -/
theorem contextTestsAt_eq {plan : Plan} (h : plan.joins.Faithful) {origin : Origin}
    {signature : String} {context : Dictionary} {index : Nat}
    (asked : origin.context? = some (signature, context))
    (found : plan.joins.index? signature = some index) :
    plan.contextTestsAt index = context.tests (plan.joins.aliasFor signature) := by
  obtain ⟨runs, name, rfl, filled, rfl⟩ := Origin.series_of_context? asked
  obtain ⟨j, stored, same⟩ := JoinTable.get?_of_index? found
  have own : j.context = context :=
    h j (List.mem_of_getElem? stored) name context filled same
  rw [contextTestsAt, JoinTable.aliasFor, found, Option.bind_some, stored]
  simp only [Join.contextTests, Dictionary.tests, own]

end Plan

end RunFilter
