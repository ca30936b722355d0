import RunFilter.Proofs.Joins.Sharing
import RunFilter.Proofs.WellFormed

/-!
# The scope of joined names

A statement names its joins by aliases, and conditions and columns are texts with such names in
them. Nothing but the order of planning sees to it that every name is known where it stands: a
database knows only the tables that the settings name and the joins above the place.

**The law** (`Compiler.wellScoped_compile`): every compiled query is well scoped. The join at an
index is named by its kind and the index. Its condition compares it with the runs, or, if it selects
a context, with the join of a metric before it. Every column is one of a configured table or of a
join. A text of a store is read in the one join of the store that is bound to its key.

`JoinTable.Scoped` is what planning keeps. It knows beside the scope of each join that the joins of
metrics, which are found by their signatures, are joins of the latest samples.
-/

set_option autoImplicit false

namespace RunFilter

/-! ## Scopes -/

/-- The kinds of the joins that are bound to a key, with their tables. -/
def Join.keyedKinds : List (String × String) :=
  [("metrics", latestMetricsTable), ("tags", "tags"), ("params", "params")]

/-- **A join that knows every name in its condition**, for its index in a list of joins. -/
inductive Join.ScopedAt (tables : Dictionary) (joins : List Join) (index : Nat) (j : Join) : Prop
  /-- The join of a key names the runs and itself. -/
  | keyed {kind runs : String} (known : (kind, j.table) ∈ keyedKinds)
    (aliasName : j.aliasName = kind ++ "_" ++ toString index)
    (configured : tables.get? "runs" = some runs)
    (condition : j.condition =
      runs ++ ".run_uuid = " ++ j.aliasName ++ ".run_uuid AND " ++ j.aliasName ++ ".key = ?")
  /-- The join of a context names itself and the join of a metric before it. -/
  | context {earlier : Nat} {metric : Join} (table : j.table = contextsTable)
    (aliasName : j.aliasName = "contexts_" ++ toString index) (before : earlier < index)
    (stored : joins[earlier]? = some metric) (samples : metric.table = latestMetricsTable)
    (condition : j.condition = metric.aliasName ++ ".context_id = " ++ j.aliasName ++ ".id")

/-- A column that names a table, and no other. -/
def Column.Of (table : String) : Column → Prop
  | .field named _ | .document named _ _ => named = table
  | .expression sql => sql = "(" ++ table ++ ".end_time - " ++ table ++ ".start_time) / 1000"

/-- **A column of a table of the settings or of one of the joins.** -/
def Column.Scoped (tables : Dictionary) (joins : List Join) (column : Column) : Prop :=
  ∃ table, column.Of table ∧
    ((∃ key, tables.get? key = some table) ∨ ∃ j ∈ joins, j.aliasName = table)

namespace Predicate

mutual
/-- The columns of a predicate from left to right. -/
def columns : Predicate → List Column
  | .test column _ => [column]
  | .constant _ => []
  | .all parts | .any parts => columnsAll parts
  | .negation part => part.columns
/-- The columns of predicates from left to right. -/
def columnsAll : List Predicate → List Column
  | [] => []
  | p :: ps => p.columns ++ columnsAll ps
end

end Predicate

/-- **A resolution that names nothing unknown**: its joins are scoped, each is told from the others
by its name and by its signature, and every column of its conditions is scoped. -/
structure Resolution.WellScoped (r : Resolution) (tables : Dictionary) : Prop where
  joins : ∀ index (j : Join), r.joins[index]? = some j → j.ScopedAt tables r.joins index
  aliasNames : (r.joins.map (·.aliasName)).Nodup
  signatures : (r.joins.map (·.signature)).Nodup
  columns : ∀ p ∈ r.conjuncts, ∀ column ∈ p.columns, column.Scoped tables r.joins

/-! ## Attributes of configured tables -/

/-- The tables that an origin names are those of the settings. -/
def Origin.Configured (tables : Dictionary) : Origin → Prop
  | .table name => ∃ key, tables.get? key = some name
  | .series runs _ _ | .keyed runs _ _ => tables.get? "runs" = some runs

namespace AttributePath

variable {tables : Dictionary} {p : AttributePath} {operand : Operand} {ref : Reference}

/-- Only runs have metrics by name and texts under keys. -/
theorem tableKey_eq_runs {entity : Entity} {field : String} {entry : Attribute}
    (listed : entity.attribute? field = some entry)
    (joined : entry.kind = .metricSeries ∨ ∃ store, entry.kind = .keyed store) :
    entity.tableKey = "runs" := by
  have named := Entity.named_of_attribute? listed
  rcases joined with kind | ⟨store, kind⟩ <;> rw [kind] at named
  · obtain ⟨rfl, _⟩ := named
    rfl
  · cases store <;> obtain ⟨rfl, _⟩ := named <;> rfl

theorem configured_of_operandOf {entity : Entity} {table : String} {kind : AttributeKind}
    (named : tables.get? entity.tableKey = some table)
    (joined : kind = .metricSeries ∨ (∃ store, kind = .keyed store) → entity.tableKey = "runs")
    (h : p.operandOf tables entity table kind = .ok operand)
    (asked : operand.reference? = some ref) : ref.origin.Configured tables := by
  cases kind with
  | metricSeries =>
    have runs : tables.get? "runs" = some table := joined (.inl rfl) ▸ named
    obtain ⟨_, _, column, _, rfl⟩ := series_eq_ok.mp h
    cases column <;> cases asked <;> exact runs
  | keyed store =>
    have runs : tables.get? "runs" = some table := joined (.inr ⟨store, rfl⟩) ▸ named
    obtain ⟨_, _, h⟩ := bind_eq_ok.mp h
    cases h
    cases asked
    exact runs
  | column | flag | duration | firstStep =>
    obtain ⟨_, _, h⟩ := bind_eq_ok.mp h
    cases h
    cases asked
    exact ⟨_, named⟩
  | experimentName | context =>
    obtain ⟨_, _, h⟩ := bind_eq_ok.mp h
    split at h
    · cases h
    next other =>
      cases h
      cases asked
      exact ⟨_, other⟩

/-- **An attribute is found in the tables of the settings**, or joined to their runs. -/
theorem configured_of_reference? (h : p.reference? tables = some ref) :
    ref.origin.Configured tables := by
  obtain ⟨operand, found, asked⟩ := Option.bind_eq_some_iff.mp h
  obtain ⟨_, _, _, _, named, listed, found⟩ := operand_eq_ok.mp (toOption_eq_some.mp found)
  exact configured_of_operandOf named (tableKey_eq_runs listed) found asked

end AttributePath

theorem Filter.configured_references {tables : Dictionary} {f : Filter} {c : Condition}
    (checked : f.condition tables = .ok c) :
    ∀ ref ∈ c.references, ref.origin.Configured tables := by
  intro ref mem
  have named : some ref ∈ f.paths.map (·.reference? tables) := by
    rw [references_condition checked]
    exact List.mem_map_of_mem mem
  obtain ⟨p, _, named⟩ := List.mem_map.mp named
  exact AttributePath.configured_of_reference? named

/-! ## Joins -/

theorem Plan.aliasAt_of_stored {plan : Plan} {index : Nat} {j : Join}
    (stored : plan.joins.joins[index]? = some j) : plan.aliasAt index = j.aliasName := by
  rw [aliasAt, JoinTable.get?, stored]

theorem Join.ScopedAt.of_le {tables : Dictionary} {t u : JoinTable} {index : Nat} {j : Join}
    (h : j.ScopedAt tables t.joins index) (le : t ≤ u) : j.ScopedAt tables u.joins index := by
  cases h with
  | keyed known aliasName configured condition => exact .keyed known aliasName configured condition
  | context table aliasName before stored samples condition =>
    exact .context table aliasName before (JoinTable.get?_of_le le stored) samples condition

namespace JoinTable

/-- **A table of scoped joins**, each under a signature of its own. The signature of a metric is
that of a join of the latest samples. -/
structure Scoped (tables : Dictionary) (t : JoinTable) : Prop where
  joins : ∀ index (j : Join), t.joins[index]? = some j → j.ScopedAt tables t.joins index
  signatures : (t.joins.map (·.signature)).Nodup
  samples : ∀ j ∈ t.joins, ∀ name context, j.signature = Origin.seriesSignature name context →
    j.table = latestMetricsTable

variable {tables : Dictionary} {t : JoinTable}

theorem scoped_empty : empty.Scoped tables := ⟨nofun, List.nodup_nil, nofun⟩

/-- A signature that is not found is new. -/
theorem nodup_allocate (h : (t.joins.map (·.signature)).Nodup) (signature : String)
    (build : Nat → Join) : ((t.allocate signature build).2.joins.map (·.signature)).Nodup := by
  unfold allocate
  cases found : t.index? signature with
  | some index => exact h
  | none =>
    have new : ∀ j ∈ t.joins, j.signature ≠ signature := by
      simpa [index?, List.findIdx?_eq_none_iff] using found
    rw [List.map_append, List.map_singleton]
    refine List.nodup_append.mpr ⟨h, List.nodup_singleton _, fun s mem s' mem' => ?_⟩
    obtain ⟨j, stored, rfl⟩ := List.mem_map.mp mem
    rw [List.mem_singleton] at mem'
    exact mem' ▸ new j stored

/-- **A request keeps a table scoped** if the join that it may make is scoped. -/
theorem Scoped.allocate (h : t.Scoped tables) {signature : String} {build : Nat → Join}
    (built : ∀ index, t.joins.length ≤ index →
      Join.ScopedAt tables t.joins index { build index with signature })
    (samples : ∀ name context, signature = Origin.seriesSignature name context →
      ∀ index, (build index).table = latestMetricsTable) :
    (t.allocate signature build).2.Scoped tables where
  joins index j stored := by
    obtain ⟨le, _, _⟩ := t.allocate_spec signature build
    by_cases old : index < t.joins.length
    · have same := get?_of_le le (List.getElem?_eq_getElem old)
      rw [get?, stored] at same
      cases same
      exact (h.joins index _ (List.getElem?_eq_getElem old)).of_le le
    · rcases getElem?_allocate stored with present | ⟨_, rfl⟩
      · exact absurd (List.getElem?_eq_some_iff.mp present).1 old
      · exact (built index (Nat.le_of_not_lt old)).of_le le
  signatures := nodup_allocate h.signatures signature build
  samples j mem name context eq := by
    rcases (t.allocate_spec signature build).2.2 j mem with old | rfl
    · exact h.samples j old name context eq
    · exact samples name context eq _

/-- The join of a metric stands in the table, and is a join of the latest samples. -/
theorem Scoped.stored_series (h : t.Scoped tables) {name : String} {context : Dictionary}
    {index : Nat} (found : t.index? (Origin.seriesSignature name context) = some index) :
    ∃ metric, t.joins[index]? = some metric ∧ metric.table = latestMetricsTable := by
  obtain ⟨metric, stored, signature⟩ := get?_of_index? found
  exact ⟨metric, stored, h.samples metric (List.mem_of_getElem? stored) name context signature⟩

/-- **One step keeps it**: a scoped table, with the joins of one more attribute. -/
theorem Scoped.plan (h : t.Scoped tables) {ref : Reference}
    (configured : ref.origin.Configured tables) : (t.plan ref).Scoped tables := by
  unfold JoinTable.plan
  cases origin : ref.origin with
  | table name => exact h
  | keyed runs store key =>
    rw [origin] at configured
    have known : (store.table, store.table) ∈ Join.keyedKinds := by cases store <;> decide
    exact h.allocate (fun _ _ => .keyed known rfl configured rfl)
      fun name context eq => (Demand.keyedSignature_ne_series store key name context eq).elim
  | series runs name context =>
    rw [origin] at configured
    have known : ("metrics", latestMetricsTable) ∈ Join.keyedKinds := by decide
    have first : ((⟨t, []⟩ : Plan).join (Origin.seriesSignature name context)
        (Join.ofKey "metrics" latestMetricsTable runs name)).2.joins.Scoped tables :=
      h.allocate (fun _ _ => .keyed known rfl configured rfl) fun _ _ _ _ => rfl
    obtain ⟨_, found, _⟩ := (⟨t, []⟩ : Plan).join_spec (Origin.seriesSignature name context)
      (Join.ofKey "metrics" latestMetricsTable runs name)
    simp only [Plan.place]
    split
    · exact first
    · -- The join of the context stands behind that of its metric, which is made first.
      obtain ⟨metric, stored, samples⟩ := first.stored_series found
      have named := Plan.aliasAt_of_stored stored
      refine first.allocate (fun index behind => ?_) fun name' context' eq =>
        (contextSignature_ne (head?_seriesSignature name' context') (by decide) name context
          eq.symm).elim
      have before := (List.getElem?_eq_some_iff.mp stored).1
      exact .context rfl rfl (Nat.lt_of_lt_of_le before behind) stored samples
        (congrArg (· ++ ".context_id = " ++ Join.aliasOf "contexts" index ++ ".id") named)

/-- **A table planned for attributes of configured tables is scoped.** -/
theorem Scoped.planAll (h : t.Scoped tables) {refs : List Reference}
    (configured : ∀ ref ∈ refs, ref.origin.Configured tables) : (t.planAll refs).Scoped tables := by
  induction refs generalizing t with
  | nil => exact h
  | cons ref refs ih =>
    obtain ⟨first, rest⟩ := List.forall_mem_cons.mp configured
    exact ih (h.plan first) rest

/-! ## Columns -/

/-- An attribute is found in a configured table or in a join. -/
theorem Holds.tableOf {origin : Origin} (holds : t.Holds origin)
    (configured : origin.Configured tables) :
    (∃ key, tables.get? key = some (t.tableOf origin)) ∨
      ∃ j ∈ t.joins, j.aliasName = t.tableOf origin := by
  cases origin with
  | table name => exact .inl configured
  | keyed runs store key => exact .inr (exists_aliasFor (holds.join _ rfl))
  | series runs name context => exact .inr (exists_aliasFor (holds.join _ rfl))

end JoinTable

theorem Part.of_columnIn (part : Part) (table : String) : (part.columnIn table).Of table := by
  cases part <;> rfl

/-- The tests of a context are tests of columns of its join. -/
theorem Dictionary.scoped_tests {tables context : Dictionary} {joins : List Join} {j : Join}
    (mem : j ∈ joins) : ∀ p ∈ context.tests j.aliasName, ∀ column ∈ p.columns,
      column.Scoped tables joins := by
  intro p tested column named
  obtain ⟨entry, _, rfl⟩ := List.mem_map.mp tested
  obtain rfl := List.mem_singleton.mp named
  exact ⟨j.aliasName, rfl, .inr ⟨j, mem, rfl⟩⟩

namespace Predicate

theorem mem_columnsAll {ps : List Predicate} {column : Column} :
    column ∈ columnsAll ps ↔ ∃ p ∈ ps, column ∈ p.columns := by
  induction ps with
  | nil => simp [columnsAll]
  | cons p ps ih => simp [columnsAll, ih]

end Predicate

namespace Condition

variable {tables : Dictionary} {t : JoinTable}

theorem scoped_guarded {origin : Origin} (holds : t.Holds origin) {leaf : Predicate}
    (own : ∀ column ∈ leaf.columns, column.Scoped tables t.joins) :
    ∀ column ∈ (t.guarded origin leaf).columns, column.Scoped tables t.joins := by
  unfold JoinTable.guarded
  split
  next present =>
    obtain ⟨⟨signature, context⟩, asked⟩ := Option.isSome_iff_exists.mp present
    obtain ⟨j, stored, named⟩ := JoinTable.exists_aliasFor (holds.context signature context asked)
    intro column mem
    rw [Predicate.columns, Predicate.mem_columnsAll] at mem
    obtain ⟨p, mem, named'⟩ := mem
    rcases List.mem_append.mp mem with mem | mem
    · have own : t.ownTests origin = context.tests j.aliasName := by
        rw [JoinTable.ownTests, asked, named]
      exact Dictionary.scoped_tests stored p (own ▸ mem) column named'
    · exact own column (List.mem_singleton.mp mem ▸ named')
  next => exact own

mutual
/-- **Columns that are read off a table** with the joins of the attributes are scoped in it. -/
theorem scoped_readOff : ∀ {c : Condition} {bare : Bool},
    (∀ ref ∈ c.references, ref.origin.Configured tables ∧ t.Holds ref.origin) →
    ∀ column ∈ (c.readOff t bare).columns, column.Scoped tables t.joins
  | .test ref part asked, bare, known => by
    obtain ⟨configured, holds⟩ := known ref List.mem_cons_self
    have leaf : ∀ column ∈ (Predicate.test (part.columnIn (t.tableOf ref.origin)) asked).columns,
        column.Scoped tables t.joins :=
      List.forall_mem_singleton.mpr ⟨_, part.of_columnIn _, holds.tableOf configured⟩
    simp only [readOff]
    split
    · exact leaf
    · exact scoped_guarded holds leaf
  | .decided ref answer, bare, known => by
    have leaf : ∀ column ∈ (Predicate.constant answer).columns,
        column.Scoped tables t.joins := nofun
    simp only [readOff]
    split
    · exact leaf
    · exact scoped_guarded (known ref List.mem_cons_self).2 leaf
  | .all parts, bare, known => @scoped_readOffAll parts bare known
  | .any parts, _, known => @scoped_readOffAll parts false known
  | .negation part, bare, known => scoped_readOff (c := part) known
theorem scoped_readOffAll : ∀ {cs : List Condition} {bare : Bool},
    (∀ ref ∈ referencesAll cs, ref.origin.Configured tables ∧ t.Holds ref.origin) →
    ∀ column ∈ Predicate.columnsAll (readOffAll t bare cs), column.Scoped tables t.joins
  | [], _, _ => nofun
  | c :: cs, bare, known => by
    obtain ⟨first, rest⟩ := List.forall_mem_append.mp known
    exact List.forall_mem_append.mpr ⟨scoped_readOff first, scoped_readOffAll rest⟩
end

end Condition

/-! ## Demands of stores -/

namespace Demand

variable {store : KeyStore} {key : String} {d : Demand}

/-- Only the demand for a text of a store is served by joins of the store. -/
theorem eq_stored (table : d.table = store.table) (bound : d.key = key) :
    d = .stored store key := by
  cases d with
  | stored store' key' =>
    change key' = key at bound
    cases store <;> cases store' <;> simp [Demand.table, KeyStore.table, bound] at table ⊢
  | sampled name context =>
    cases store <;> simp [Demand.table, KeyStore.table, latestMetricsTable] at table

/-- Texts of stores are not mimicked. -/
theorem eq_of_shares_stored (h : d.Shares (.stored store key)) : d = .stored store key := by
  rcases h with rfl | mimics | mimics
  · rfl
  · cases d <;> exact mimics.elim
  · cases d <;> exact mimics.elim

end Demand

/-! ## Resolutions -/

namespace Resolution

variable {tables : Dictionary} {f : Filter} {c : Condition}

theorem scoped_ofCondition (checked : f.condition tables = .ok c) :
    (⟨(ofCondition c).joins⟩ : JoinTable).Scoped tables := by
  rw [joins_ofCondition]
  exact JoinTable.scoped_empty.planAll (Filter.configured_references checked)

/-- **Resolutions of checked filters are well scoped.** -/
theorem wellScoped_ofCondition (checked : f.condition tables = .ok c) :
    (ofCondition c).WellScoped tables := by
  have planned := plannedFor_ofCondition c
  have known := scoped_ofCondition checked
  refine ⟨known.joins, planned.nodup, known.signatures, ?_⟩
  refine List.forall_mem_append.mpr ⟨fun p mem => ?_, ?_⟩
  · obtain ⟨⟨j, index⟩, stored, mem⟩ := List.mem_flatMap.mp mem
    dsimp only at mem
    split at mem
    · exact Dictionary.scoped_tests (List.fst_mem_of_mem_zipIdx stored) p mem
    · cases mem
  · rw [predicate_ofCondition]
    refine List.forall_mem_singleton.mpr (Condition.scoped_readOff fun ref mem => ?_)
    exact ⟨Filter.configured_references checked ref mem, planned.holds ref mem⟩

/-- A resolution of nothing names nothing. -/
theorem wellScoped_ofFilter {filter : Option Filter} {r : Resolution}
    (resolved : ofFilter tables filter = .ok r) : r.WellScoped tables := by
  cases filter with
  | none =>
    cases resolved
    exact ⟨nofun, List.nodup_nil, List.nodup_nil, nofun⟩
  | some f =>
    obtain ⟨c, checked, rfl⟩ := ofFilter_eq_ok.mp resolved
    exact wellScoped_ofCondition checked

/-- **One join of a store is bound to a key**: the one of the attributes that ask for it. -/
theorem joinOf?_stored (checked : f.condition tables = .ok c) {p : AttributePath}
    (mem : p ∈ f.paths) {store : KeyStore} {key : String}
    (asked : p.demand? = some (.stored store key)) :
    ∃ ref j, p.reference? tables = some ref ∧
      (⟨(ofCondition c).joins⟩ : JoinTable).tableOf ref.origin = j.aliasName ∧
      ∀ k, k ∈ (ofCondition c).joins ∧ k.table = store.table ∧ k.params = [.text key] ↔ k = j := by
  obtain ⟨ref, mem, named⟩ := mem_references checked mem
  have asked' := (AttributePath.demand?_of_reference? named).trans asked
  have planned := plannedFor_ofCondition c
  obtain ⟨j, stored, aliasName, signature, _, e, _, _, shares, _, table, params⟩ :=
    planned.served mem asked'
  obtain rfl := Demand.eq_of_shares_stored shares
  refine ⟨ref, j, named, aliasName.symm, fun k => ⟨?_, ?_⟩⟩
  · rintro ⟨stored', table', params'⟩
    refine List.inj_on_of_nodup_map (scoped_ofCondition checked).signatures stored' stored ?_
    obtain ⟨index, found⟩ := List.mem_iff_getElem?.mp stored'
    cases planned.planned index k found with
    | @demand _ _ _ d place asked serves first =>
      have params := serves.params.symm.trans params'
      simp only [List.cons.injEq, Value.text.injEq, and_true] at params
      have same := Demand.eq_stored (serves.table.symm.trans table') params
      rw [serves.signature, same, signature]
    | context mem origin filled aliasName signature selects =>
      cases selects.params.symm.trans params'
  · rintro rfl
    exact ⟨stored, table, params⟩

end Resolution

/-! ## Queries -/

namespace Compiler

/-- **Compiled queries are well scoped.** The query has the joins, the context tests and the
predicate of a resolution that names nothing unknown. Where the query or the default filter asks
anything, its attributes are read off the joins: each stands in the table that `tableOf` says, and
for a text of a store this is the one join of the store that is bound to the key. -/
theorem wellScoped_compile {c : Compiler} {query : String} {q : CompiledQuery}
    (compiled : c.compile query = .ok q) :
    ∃ typed r, Filter.parse query = .ok typed ∧ c.resolve query = .ok r ∧ q = c.ofResolution r ∧
      r.WellScoped c.settings.tables ∧
      ∀ f, c.withDefault query typed = some f →
        ∃ checked, f.condition c.settings.tables = .ok checked ∧
          r.predicate = some (checked.readOff ⟨r.joins⟩ true) ∧
          f.paths.map (·.reference? c.settings.tables) = checked.references.map some ∧
          ∀ p ∈ f.paths, ∀ store key, p.demand? = some (.stored store key) →
            ∃ ref j, p.reference? c.settings.tables = some ref ∧
              (⟨r.joins⟩ : JoinTable).tableOf ref.origin = j.aliasName ∧
              ∀ k, k ∈ r.joins ∧ k.table = store.table ∧ k.params = [.text key] ↔ k = j := by
  obtain ⟨typed, r, read, resolved, rfl⟩ := compile_eq_ok_iff.mp compiled
  refine ⟨typed, r, read, ?_, rfl, Resolution.wellScoped_ofFilter resolved, fun f asked => ?_⟩
  · exact bind_eq_ok.mpr ⟨typed, read, mapError_eq_ok.mpr resolved⟩
  · rw [asked] at resolved
    obtain ⟨checked, ok, rfl⟩ := Resolution.ofFilter_eq_ok.mp resolved
    exact ⟨checked, ok, Resolution.predicate_ofCondition checked, Filter.references_condition ok,
      fun p mem store key asked => Resolution.joinOf?_stored ok mem asked⟩

/-- Runs with an owner, and a small loss on one subset or a given rate. -/
def ownedOrTuned : String :=
  "run.tags.owner == 'a' and (run.metrics['loss', \x7b'subset': 'val'\x7d].last < 1 " ++
    "or run.params['rate'] == '1')"

/-- The joins of that query: their names and conditions. -/
def ownedOrTunedJoins : List (String × String) := [
  ("tags_0", "runs.run_uuid = tags_0.run_uuid AND tags_0.key = ?"),
  ("metrics_1", "runs.run_uuid = metrics_1.run_uuid AND metrics_1.key = ?"),
  ("contexts_2", "metrics_1.context_id = contexts_2.id"),
  ("params_3", "runs.run_uuid = params_3.run_uuid AND params_3.key = ?")]

/-- Four joins, of which the third stands on the second. -/
theorem wellScoped_compile_ownedOrTuned :
    ∃ c q r, ofSettings Settings.standard = .ok c ∧ c.compile ownedOrTuned = .ok q ∧
      c.resolve ownedOrTuned = .ok r ∧ r.joins = q.joins ∧
      r.joins.map (fun j => (j.aliasName, j.condition)) = ownedOrTunedJoins ∧
      r.WellScoped c.settings.tables := by
  have named : ((ofSettings Settings.standard).toOption.bind fun c =>
      (c.compile ownedOrTuned).toOption.map fun q =>
        q.joins.map fun j => (j.aliasName, j.condition)) = some ownedOrTunedJoins := by
    decide +kernel
  obtain ⟨c, accepted, named⟩ := Option.bind_eq_some_iff.mp named
  obtain ⟨q, compiled, named⟩ := Option.map_eq_some_iff.mp named
  rw [toOption_eq_some] at accepted compiled
  obtain ⟨_, r, _, resolved, rfl, known, _⟩ := wellScoped_compile compiled
  exact ⟨c, _, r, accepted, compiled, resolved, rfl, named, known⟩

end Compiler

end RunFilter
