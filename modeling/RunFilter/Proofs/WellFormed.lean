import RunFilter.Compiler
import RunFilter.Proofs.Hoisting
import RunFilter.Proofs.Names

/-!
# What compilers make statements of

A compiler writes names into statements without looking at them, and decides by the number of
operands where parentheses go. Both rest on what can reach it: names are identifiers, and
conjunctions and disjunctions have two parts at least.

**The law** (`Compiler.wellFormed_resolve`): the resolutions of a compiler of accepted settings are
well formed. What is known of conditions is carried over to predicates along `Condition.readOff`,
the reading of a condition off its finished table.
-/

set_option autoImplicit false

namespace RunFilter

/-! ## Identifiers -/

namespace Text

theorem isNamePart_of_isDigit {c : Char} (h : c.isDigit = true) : isNamePart c = true := by
  simp only [Char.isDigit, Bool.and_eq_true, decide_eq_true_eq] at h
  have digit : isDigit c = true := by
    rw [isDigit, Bool.and_eq_true, decide_eq_true_eq, decide_eq_true_eq]
    exact h
  rw [isNamePart, digit, Bool.or_true]

theorem isIdentifier_append {s t : String} (h : isIdentifier s = true)
    (part : ∀ c ∈ t.toList, isNamePart c = true) : isIdentifier (s ++ t) = true := by
  unfold isIdentifier at h ⊢
  rw [String.toList_append]
  cases chars : s.toList with
  | nil =>
    rw [chars] at h
    cases h
  | cons c cs =>
    rw [chars, Bool.and_eq_true] at h
    rw [List.cons_append, Bool.and_eq_true, List.all_append, Bool.and_eq_true, List.all_eq_true]
    exact ⟨h.1, List.all_eq_true.mp h.2, List.all_eq_true.mpr part⟩

/-- **Joins are named by identifiers.** -/
theorem isIdentifier_aliasOf {kind : String} (h : isIdentifier kind = true) (index : Nat) :
    isIdentifier (Join.aliasOf kind index) = true := by
  have score : ∀ c ∈ "_".toList, isNamePart c = true := List.all_eq_true.mp (by decide)
  refine isIdentifier_append (isIdentifier_append h score) fun c mem => ?_
  rw [Nat.toString_eq_repr, Nat.repr_eq_ofList_toDigits, String.toList_ofList] at mem
  exact isNamePart_of_isDigit (Nat.isDigit_of_mem_toDigits (by decide) (by decide) mem)

end Text

/-! ## Joins -/

/-- **A join whose names are identifiers**, with a condition for its key or for its context. -/
structure Join.Plain (j : Join) : Prop where
  table : Text.isIdentifier j.table = true
  aliasName : Text.isIdentifier j.aliasName = true
  condition :
    (∃ runs key, Text.isIdentifier runs = true ∧ j.condition = keyCondition runs j.aliasName ∧
      j.params = [.text key]) ∨
    ∃ metric, Text.isIdentifier metric = true ∧
      j.condition = metric ++ ".context_id = " ++ j.aliasName ++ ".id" ∧ j.params = []

theorem Join.plain_ofKey {kind table runs key : String} (index : Nat)
    (kind_ok : Text.isIdentifier kind = true) (table_ok : Text.isIdentifier table = true)
    (runs_ok : Text.isIdentifier runs = true) (signature : String) :
    Join.Plain { ofKey kind table runs key index with signature } where
  table := table_ok
  aliasName := Text.isIdentifier_aliasOf kind_ok index
  condition := .inl ⟨runs, key, runs_ok, rfl, rfl⟩

theorem Join.plain_ofContext {metric : String} (context : Dictionary) (index : Nat)
    (metric_ok : Text.isIdentifier metric = true) (signature : String) :
    Join.Plain { ofContext metric context index with signature } where
  table := show Text.isIdentifier contextsTable = true by decide
  aliasName := Text.isIdentifier_aliasOf (by decide) index
  condition := .inr ⟨metric, metric_ok, rfl, rfl⟩

namespace JoinTable

/-- The joins of a table are plain. -/
def Plain (t : JoinTable) : Prop := ∀ j ∈ t.joins, j.Plain

variable {t : JoinTable}

theorem Plain.allocate (h : t.Plain) {signature : String} {build : Nat → Join}
    (built : ∀ index, Join.Plain { build index with signature }) :
    (t.allocate signature build).2.Plain := by
  intro j mem
  rcases (t.allocate_spec signature build).2.2 j mem with old | rfl
  · exact h j old
  · exact built _

theorem Plain.aliasFor (h : t.Plain) {signature : String} (found : (t.index? signature).isSome) :
    Text.isIdentifier (t.aliasFor signature) = true := by
  obtain ⟨j, stored, named⟩ := exists_aliasFor found
  exact named ▸ (h j stored).aliasName

theorem Plain.tableOf (h : t.Plain) {origin : Origin} (holds : t.Holds origin)
    (plain : origin.Plain) : Text.isIdentifier (t.tableOf origin) = true := by
  cases origin with
  | table name => exact plain
  | keyed runs store key => exact h.aliasFor (holds.join _ rfl)
  | series runs name context => exact h.aliasFor (holds.join _ rfl)

theorem Plain.plan (h : t.Plain) {ref : Reference} (plain : ref.origin.Plain) :
    (t.plan ref).Plain := by
  unfold JoinTable.plan
  cases origin : ref.origin with
  | table name => exact h
  | keyed runs store key =>
    rw [origin] at plain
    have kind : Text.isIdentifier store.table = true := by cases store <;> decide
    exact h.allocate fun index => Join.plain_ofKey index kind kind plain _
  | series runs name context =>
    rw [origin] at plain
    have metric : ((⟨t, []⟩ : Plan).join (Origin.seriesSignature name context)
        (Join.ofKey "metrics" latestMetricsTable runs name)).2.joins.Plain :=
      h.allocate fun index => Join.plain_ofKey index (by decide) (by decide) plain _
    obtain ⟨_, found, _⟩ := (⟨t, []⟩ : Plan).join_spec (Origin.seriesSignature name context)
      (Join.ofKey "metrics" latestMetricsTable runs name)
    have named := metric.aliasFor (Option.isSome_of_eq_some found)
    rw [← Plan.aliasAt_eq _ found] at named
    simp only [Plan.place]
    by_cases empty : context.isEmpty
    · simpa only [if_pos empty] using metric
    · simp only [if_neg empty]
      exact metric.allocate fun index => Join.plain_ofContext context index named _

theorem Plain.planAll (h : t.Plain) {refs : List Reference}
    (plain : ∀ ref ∈ refs, ref.origin.Plain) : (t.planAll refs).Plain := by
  induction refs generalizing t with
  | nil => exact h
  | cons ref refs ih =>
    obtain ⟨first, rest⟩ := List.forall_mem_cons.mp plain
    exact ih (h.plan first) rest

end JoinTable

/-! ## Predicates -/

/-- **A column whose names are identifiers.** -/
def Column.Plain : Column → Prop
  | .field table column => Text.isIdentifier table = true ∧ Text.isIdentifier column = true
  | .expression sql => ∃ table, Text.isIdentifier table = true ∧
      sql = "(" ++ table ++ ".end_time - " ++ table ++ ".start_time) / 1000"
  | .document table column _ => Text.isIdentifier table = true ∧ Text.isIdentifier column = true

theorem Part.plain_columnIn {part : Part} (h : part.Plain) {table : String}
    (table_ok : Text.isIdentifier table = true) : (part.columnIn table).Plain := by
  cases part with
  | column name => exact ⟨table_ok, h⟩
  | duration => exact ⟨table, table_ok, rfl⟩
  | document path => exact ⟨table_ok, show Text.isIdentifier contextColumn = true by decide⟩

namespace Predicate

mutual
/-- **A predicate whose columns are plain**, and whose conjunctions and disjunctions have two parts
at least. -/
def WellFormed : Predicate → Prop
  | .test column _ => column.Plain
  | .constant _ => True
  | .all parts | .any parts => 2 ≤ parts.length ∧ WellFormedAll parts
  | .negation part => part.WellFormed
/-- All predicates are well formed. -/
def WellFormedAll : List Predicate → Prop
  | [] => True
  | p :: ps => p.WellFormed ∧ WellFormedAll ps
end

theorem wellFormedAll_iff {ps : List Predicate} : WellFormedAll ps ↔ ∀ p ∈ ps, p.WellFormed := by
  induction ps with
  | nil => exact ⟨fun _ _ mem => (nomatch mem), fun _ => trivial⟩
  | cons p ps ih => rw [WellFormedAll, ih, List.forall_mem_cons]

end Predicate

/-- The tests of a context are tests of a plain column. -/
theorem Dictionary.wellFormed_tests {context : Dictionary} {aliasName : String}
    (h : Text.isIdentifier aliasName = true) : ∀ p ∈ context.tests aliasName, p.WellFormed := by
  intro p mem
  obtain ⟨entry, _, rfl⟩ := List.mem_map.mp mem
  exact ⟨h, show Text.isIdentifier contextColumn = true by decide⟩

namespace Condition

theorem wellFormed_guarded {t : JoinTable} (plain : t.Plain) {origin : Origin}
    (holds : t.Holds origin) {leaf : Predicate} (h : leaf.WellFormed) :
    (t.guarded origin leaf).WellFormed := by
  unfold JoinTable.guarded
  split
  next present =>
    obtain ⟨⟨signature, context⟩, asked⟩ := Option.isSome_iff_exists.mp present
    obtain ⟨_, _, _, filled, _⟩ := Origin.series_of_context? asked
    have named := plain.aliasFor (holds.context signature context asked)
    have own : t.ownTests origin = context.tests (t.aliasFor signature) := by
      rw [JoinTable.ownTests, asked]
    have some : 1 ≤ (t.ownTests origin).length := by
      rw [own, Dictionary.tests, List.length_map]
      exact List.length_pos_iff.mpr (mt List.isEmpty_iff.mpr (Bool.eq_false_iff.mp filled))
    refine ⟨?_, Predicate.wellFormedAll_iff.mpr fun p mem => ?_⟩
    · rw [List.length_append, List.length_singleton]
      exact Nat.add_le_add_right some 1
    · rcases List.mem_append.mp mem with mem | mem
      · exact Dictionary.wellFormed_tests named p (own ▸ mem)
      · exact List.mem_singleton.mp mem ▸ h
  next => exact h

mutual
/-- **Well-formed conditions are read as well-formed predicates** off a table with their joins. -/
theorem wellFormed_readOff {t : JoinTable} (plain : t.Plain) : ∀ {c : Condition} {bare : Bool},
    c.WellFormed → (∀ ref ∈ c.references, t.Holds ref.origin) → (c.readOff t bare).WellFormed
  | .test ref part asked, bare, h, holds => by
    have holds := holds ref List.mem_cons_self
    have leaf : (Predicate.test (part.columnIn (t.tableOf ref.origin)) asked).WellFormed :=
      Part.plain_columnIn h.2 (plain.tableOf holds h.1)
    simp only [readOff]
    split
    · exact leaf
    · exact wellFormed_guarded plain holds leaf
  | .decided ref answer, bare, h, holds => by
    simp only [readOff]
    split
    · trivial
    · exact wellFormed_guarded plain (holds ref List.mem_cons_self) trivial
  | .all parts, bare, h, holds => by
    obtain ⟨wide, parts_ok⟩ := h
    obtain ⟨all_ok, same⟩ := wellFormedAll_readOffAll plain parts_ok holds
    exact ⟨same ▸ wide, all_ok⟩
  | .any parts, bare, h, holds => by
    obtain ⟨wide, parts_ok⟩ := h
    obtain ⟨all_ok, same⟩ := wellFormedAll_readOffAll plain parts_ok holds
    exact ⟨same ▸ wide, all_ok⟩
  | .negation part, bare, h, holds => wellFormed_readOff (c := part) plain h holds
theorem wellFormedAll_readOffAll {t : JoinTable} (plain : t.Plain) : ∀ {cs : List Condition}
    {bare : Bool}, WellFormedAll cs → (∀ ref ∈ referencesAll cs, t.Holds ref.origin) →
    Predicate.WellFormedAll (readOffAll t bare cs) ∧ cs.length = (readOffAll t bare cs).length
  | [], _, _, _ => ⟨trivial, rfl⟩
  | c :: cs, bare, h, holds => by
    obtain ⟨first, rest⟩ := List.forall_mem_append.mp holds
    obtain ⟨all_ok, same⟩ := @wellFormedAll_readOffAll t plain cs bare h.2 rest
    exact ⟨⟨wellFormed_readOff plain h.1 first, all_ok⟩, congrArg (· + 1) same⟩
end

mutual
theorem plain_references : ∀ {c : Condition}, c.WellFormed → ∀ ref ∈ c.references, ref.origin.Plain
  | .test _ _ _, h => List.forall_mem_singleton.mpr h.1
  | .decided _ _, h => List.forall_mem_singleton.mpr h
  | .all _, h | .any _, h => plain_referencesAll h.2
  | .negation part, h => plain_references (c := part) h
theorem plain_referencesAll : ∀ {cs : List Condition}, WellFormedAll cs →
    ∀ ref ∈ referencesAll cs, ref.origin.Plain
  | [], _ => fun _ mem => (nomatch mem)
  | _ :: _, h => List.forall_mem_append.mpr ⟨plain_references h.1, plain_referencesAll h.2⟩
end

end Condition

/-! ## Resolutions -/

namespace Resolution

/-- The conditions of a statement: the context tests, then the predicate. -/
def conjuncts (r : Resolution) : List Predicate := r.contextFilters ++ r.predicate.toList

/-- **A resolution that can be written**: its predicates are well formed and its joins plain. -/
structure WellFormed (r : Resolution) : Prop where
  conjuncts : ∀ p ∈ r.conjuncts, p.WellFormed
  joins : ∀ j ∈ r.joins, j.Plain

theorem wellFormed_ofCondition {c : Condition} (h : c.WellFormed) :
    (ofCondition c).WellFormed := by
  have joins := Condition.resolve_joins c true .empty JoinTable.faithful_empty
  have plain : (c.resolve true .empty).2.joins.Plain := by
    rw [joins]
    have empty : JoinTable.empty.Plain := fun _ mem => (nomatch mem)
    exact empty.planAll (Condition.plain_references h)
  have holds : ∀ ref ∈ c.references, (c.resolve true .empty).2.joins.Holds ref.origin :=
    fun ref mem => joins ▸ JoinTable.holds_planAll mem
  have below : (c.resolve true .empty).1 = c.readOff (c.resolve true .empty).2.joins true :=
    Condition.resolve_eq_readOff c true .empty JoinTable.faithful_empty _ (JoinTable.le_refl _)
  refine ⟨List.forall_mem_append.mpr ⟨fun p mem => ?_, List.forall_mem_singleton.mpr ?_⟩, plain⟩
  · obtain ⟨⟨j, index⟩, stored, mem⟩ := List.mem_flatMap.mp mem
    dsimp only at mem
    split at mem
    · have named := (plain j (List.fst_mem_of_mem_zipIdx stored)).aliasName
      exact Dictionary.wellFormed_tests named p mem
    · cases mem
  · rw [below]
    exact Condition.wellFormed_readOff plain h holds

theorem wellFormed_ofFilter {tables : Dictionary} (plain : tables.Plain) {filter : Option Filter}
    (wide : ∀ f ∈ filter, f.Wide) {r : Resolution} (h : ofFilter tables filter = .ok r) :
    r.WellFormed := by
  cases filter with
  | none =>
    cases h
    exact ⟨fun _ mem => (nomatch mem), fun _ mem => (nomatch mem)⟩
  | some f =>
    change (f.condition tables).map ofCondition = .ok r at h
    cases checked : f.condition tables with
    | error e =>
      rw [checked] at h
      cases h
    | ok c =>
      rw [checked] at h
      cases h
      exact wellFormed_ofCondition (Filter.wellFormed_condition plain (wide f rfl) checked)

end Resolution

namespace Compiler

/-- What the settings of a compiler were checked for. -/
structure Accepted (c : Compiler) : Prop where
  tables : c.settings.tables.Plain
  defaultFilter : ∀ f ∈ c.defaultFilter, f.Wide

theorem plain_of_validateTables {settings : Settings} (h : settings.validateTables = .ok ()) :
    settings.tables.Plain := by
  intro entry mem
  unfold Settings.validateTables at h
  split at h
  · cases h
  · split at h
    · cases h
    next none =>
      have identifier := List.find?_eq_none.mp none entry mem
      rwa [Bool.not_eq_true', Bool.not_eq_false] at identifier

theorem accepted_of_ofSettings {settings : Settings} {c : Compiler}
    (h : ofSettings settings = .ok c) : c.Accepted := by
  unfold ofSettings at h
  split at h
  · obtain ⟨⟨⟩, valid, h⟩ := bind_eq_ok.mp h
    obtain ⟨default, parsed, h⟩ := bind_eq_ok.mp h
    obtain ⟨_, _, h⟩ := bind_eq_ok.mp h
    cases h
    refine ⟨plain_of_validateTables valid, fun f mem => ?_⟩
    dsimp only at mem
    obtain rfl := Option.mem_def.mp mem
    cases read : Filter.parse settings.default.expression with
    | error e =>
      rw [read] at parsed
      cases parsed
    | ok found =>
      rw [read] at parsed
      cases parsed
      exact Filter.wide_of_parse read
  · cases h

/-- **Resolutions of accepted settings can be written.** -/
theorem wellFormed_resolve {c : Compiler} (accepted : c.Accepted) {query : String} {r : Resolution}
    (h : c.resolve query = .ok r) : r.WellFormed := by
  obtain ⟨found, read, h⟩ := bind_eq_ok.mp h
  dsimp only at h
  have wide : ∀ f ∈ found, f.Wide := fun f mem =>
    Filter.wide_of_parse (Option.mem_def.mp mem ▸ read)
  have withDefault : ∀ f ∈ c.withDefault query found, f.Wide := by
    intro f mem
    unfold Compiler.withDefault at mem
    split at mem
    · exact wide f mem
    next default stored =>
      have default_ok := accepted.defaultFilter default (Option.mem_def.mpr stored)
      split at mem
      · exact wide f mem
      · split at mem
        next own =>
          obtain rfl := Option.mem_some.mp mem
          exact ⟨Nat.le_refl 2, wide own rfl, default_ok, trivial⟩
        next =>
          obtain rfl := Option.mem_some.mp mem
          exact default_ok
  cases answer : Resolution.ofFilter c.settings.tables (c.withDefault query found) with
  | error e =>
    rw [answer] at h
    cases h
  | ok r' =>
    rw [answer] at h
    cases h
    exact Resolution.wellFormed_ofFilter accepted.tables withDefault answer

theorem compile_eq_ok {c : Compiler} {query : String} {q : CompiledQuery} :
    c.compile query = .ok q ↔ ∃ r, c.resolve query = .ok r ∧ c.ofResolution r = q := by
  unfold compile
  cases c.resolve query with
  | error e => exact ⟨fun h => (nomatch h), fun ⟨_, h, _⟩ => (nomatch h)⟩
  | ok r =>
    constructor
    · intro h
      exact ⟨r, rfl, Except.ok.inj h⟩
    · rintro ⟨_, h, eq⟩
      cases h
      exact congrArg _ eq

end Compiler

end RunFilter
