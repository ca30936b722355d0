import RunFilter.Proofs.Catalogue
import RunFilter.Proofs.Joins.Sharing
import RunFilter.Proofs.Shape

/-!
# Which queries select metrics

A compiled query says whether it is about metrics. The answer is read off the references of the
checked filter; in the text of the filter it stands as an attribute of `metric` or as
`run.metrics`.

**The law** (`metricSelected_iff`): a query selects metrics exactly if one of its attributes is
written so, wherever it stands, or one of the default filter where that is added. No other text of
the query matters, and a query that joins the latest samples always selects metrics.

That no attribute is missed is `references_condition`: the references of a checked filter are what
all its paths stand for. What is left is one path and its reference (`isMetric_of_operandOf`).
-/

set_option autoImplicit false

namespace RunFilter

/-- **An attribute of metrics, as it is written.** -/
def AttributePath.OfMetric (p : AttributePath) : Prop :=
  p.entity = "metric" ∨ p.entity = "run" ∧ p.field = "metrics"

/-- Some attribute in the filter is one of metrics. -/
def Filter.NamesMetric (f : Filter) : Prop := ∃ p ∈ f.paths, p.OfMetric

/-! ## Paths and their references -/

theorem Reference.isMetric_eq_true {ref : Reference} : ref.isMetric = true ↔
    ref.entity = .metric ∨ ∃ runs name context, ref.origin = .series runs name context := by
  obtain ⟨entity, origin⟩ := ref
  cases entity <;> cases origin <;> simp [isMetric]

namespace AttributePath

variable {tables : Dictionary} {p : AttributePath} {operand : Operand} {ref : Reference}

theorem ofMetric_iff {entity : Entity} (named : p.entity = entity.name) :
    p.OfMetric ↔ entity = .metric ∨ entity = .run ∧ p.field = "metrics" := by
  rw [OfMetric, named]
  cases entity <;> simp [Entity.name]

theorem isMetric_of_series {runs : String} (h : p.series runs = .ok operand)
    (own : operand.reference? = some ref) : ref.isMetric = true := by
  obtain ⟨_, _, column, _, rfl⟩ := series_eq_ok.mp h
  cases column <;> cases own <;> rfl

/-- **A reference is one of metrics exactly if its path is written so.** -/
theorem isMetric_of_operandOf {entity : Entity} {table : String} {kind : AttributeKind}
    (named : p.entity = entity.name) (field : kind.Named entity p.field)
    (h : p.operandOf tables entity table kind = .ok operand)
    (own : operand.reference? = some ref) : ref.isMetric = true ↔ p.OfMetric := by
  cases kind with
  | column | flag | duration | firstStep =>
    have other : p.field ≠ "metrics" := (Entity.ne_joined_of_own (field.mem_ownFields rfl)).1
    obtain ⟨_, _, h⟩ := bind_eq_ok.mp h
    cases h
    cases own
    simp [Reference.isMetric_eq_true, ofMetric_iff named, other]
  | experimentName =>
    obtain ⟨rfl, field⟩ := field
    obtain ⟨_, _, h⟩ := bind_eq_ok.mp h
    split at h <;> cases h
    cases own
    simp [Reference.isMetric_eq_true, ofMetric_iff named, field]
  | metricSeries =>
    obtain ⟨rfl, field⟩ := field
    simp [isMetric_of_series h own, ofMetric_iff named, field]
  | keyed store =>
    obtain ⟨_, _, h⟩ := bind_eq_ok.mp h
    cases h
    cases own
    cases store <;> obtain ⟨rfl, field⟩ := field <;>
      simp [Reference.isMetric_eq_true, ofMetric_iff named, field]
  | context =>
    obtain ⟨rfl, field⟩ := field
    obtain ⟨_, _, h⟩ := bind_eq_ok.mp h
    split at h <;> cases h
    cases own
    simp [Reference.isMetric_eq_true, ofMetric_iff named]

theorem isMetric_of_reference? (h : p.reference? tables = some ref) :
    ref.isMetric = true ↔ p.OfMetric := by
  obtain ⟨operand, found, own⟩ := Option.bind_eq_some_iff.mp h
  obtain ⟨entity, table, entry, named, _, listed, found⟩ :=
    operand_eq_ok.mp (toOption_eq_some.mp found)
  exact isMetric_of_operandOf named (Entity.named_of_attribute? listed) found own

end AttributePath

/-! ## Conditions -/

namespace Condition

mutual
theorem namesMetric_eq_any : ∀ c : Condition, c.namesMetric = c.references.any (·.isMetric)
  | .test _ _ _ | .decided _ _ => by simp [namesMetric, references]
  | .all parts | .any parts => anyNamesMetric_eq_any parts
  | .negation part => namesMetric_eq_any part
theorem anyNamesMetric_eq_any : ∀ cs : List Condition,
    anyNamesMetric cs = (referencesAll cs).any (·.isMetric)
  | [] => rfl
  | c :: cs => by
    simp only [anyNamesMetric, referencesAll, List.any_append, namesMetric_eq_any c,
      anyNamesMetric_eq_any cs]
end

end Condition

/-- **Only metrics are sought among the latest samples.** -/
theorem JoinTable.PlannedFor.isMetric_of_samples {t : JoinTable} {refs : List Reference}
    (h : t.PlannedFor refs) {j : Join} (mem : j ∈ t.joins)
    (samples : j.table = latestMetricsTable) : ∃ ref ∈ refs, ref.isMetric = true := by
  obtain ⟨index, stored⟩ := List.mem_iff_getElem?.mp mem
  cases h.planned index j stored with
  | @demand before after ref d place asked serves first =>
    refine ⟨ref, by simp [place], Reference.isMetric_eq_true.mpr (.inr ?_)⟩
    cases origin : ref.origin with
    | table name =>
      rw [origin] at asked
      cases asked
    | keyed runs store key =>
      rw [origin] at asked
      cases asked
      have table : store.table = latestMetricsTable := serves.table.symm.trans samples
      cases store <;> exact absurd table (by decide)
    | series runs name context => exact ⟨runs, name, context, rfl⟩
  | context mem origin filled aliasName signature selects =>
    exact absurd (selects.table.symm.trans samples) (by decide)

/-! ## Resolutions -/

namespace Resolution

variable {tables : Dictionary} {f : Filter} {c : Condition}

theorem referencesMetric_ofCondition (checked : f.condition tables = .ok c) :
    (ofCondition c).referencesMetric = true ↔ f.NamesMetric := by
  have any : (ofCondition c).referencesMetric = c.references.any (·.isMetric) :=
    c.namesMetric_eq_any
  rw [any, List.any_eq_true]
  constructor
  · rintro ⟨ref, mem, metric⟩
    have named : some ref ∈ f.paths.map (·.reference? tables) := by
      rw [Filter.references_condition checked]
      exact List.mem_map_of_mem mem
    obtain ⟨p, mem, named⟩ := List.mem_map.mp named
    exact ⟨p, mem, (AttributePath.isMetric_of_reference? named).mp metric⟩
  · rintro ⟨p, mem, metric⟩
    obtain ⟨ref, mem, named⟩ := mem_references checked mem
    exact ⟨ref, mem, (AttributePath.isMetric_of_reference? named).mpr metric⟩

theorem referencesMetric_of_samples {j : Join} (mem : j ∈ (ofCondition c).joins)
    (samples : j.table = latestMetricsTable) : (ofCondition c).referencesMetric = true := by
  change c.namesMetric = true
  rw [c.namesMetric_eq_any, List.any_eq_true]
  exact (plannedFor_ofCondition c).isMetric_of_samples mem samples

/-- **A resolution is about metrics exactly if its filter names one**, and always if it joins the
latest samples. -/
theorem referencesMetric_iff {filter : Option Filter} {r : Resolution}
    (resolved : ofFilter tables filter = .ok r) :
    (r.referencesMetric = true ↔ ∃ f ∈ filter, f.NamesMetric) ∧
      ∀ j ∈ r.joins, j.table = latestMetricsTable → r.referencesMetric = true := by
  cases filter with
  | none =>
    cases resolved
    exact ⟨⟨nofun, nofun⟩, nofun⟩
  | some f =>
    obtain ⟨c, checked, rfl⟩ := ofFilter_eq_ok.mp resolved
    refine ⟨?_, fun j mem samples => referencesMetric_of_samples mem samples⟩
    simpa using referencesMetric_ofCondition checked

end Resolution

/-! ## Filters -/

namespace Filter

theorem namesMetric_both {f g : Filter} :
    (f.both g).NamesMetric ↔ f.NamesMetric ∨ g.NamesMetric := by
  simp only [NamesMetric, both, paths, pathsAll, List.append_nil, List.mem_append, or_and_right,
    exists_or]

mutual
theorem paths_shape : ∀ f : Filter, f.shape.paths = f.paths.map AttributePath.shape
  | .literal _ | .list _ | .attribute _ => rfl
  | .comparison left _ right _ => by
    simp only [shape, paths, List.map_append, paths_shape left, paths_shape right]
  | .boolean _ operands => pathsAll_shapes operands
  | .call _ arguments _ => pathsAll_shapes arguments
theorem pathsAll_shapes : ∀ fs : List Filter,
    pathsAll (shapes fs) = (pathsAll fs).map AttributePath.shape
  | [] => rfl
  | f :: fs => by
    simp only [shapes, pathsAll, List.map_append, paths_shape f, pathsAll_shapes fs]
end

/-- Blank keys, contexts and constants name the same metrics. -/
theorem namesMetric_shape (f : Filter) : f.shape.NamesMetric ↔ f.NamesMetric := by
  simp only [NamesMetric, paths_shape, List.mem_map, exists_exists_and_eq_and]
  exact Iff.rfl

theorem namesMetric_of_shape {f g : Option Filter} (same : f.map shape = g.map shape) :
    (∃ x ∈ f, x.NamesMetric) ↔ ∃ x ∈ g, x.NamesMetric := by
  have blank : ∀ f : Option Filter,
      (∃ x ∈ f, x.NamesMetric) ↔ ∃ x ∈ f.map shape, x.NamesMetric := by
    intro f
    cases f <;> simp [namesMetric_shape]
  rw [blank f, blank g, same]

end Filter

/-! ## The law -/

namespace Compiler

variable {settings : Settings} {c : Compiler} {query : String} {q : CompiledQuery}

theorem namesMetric_withDefault {typed : Option Filter} :
    (∃ f ∈ c.withDefault query typed, f.NamesMetric) ↔ (∃ f ∈ typed, f.NamesMetric) ∨
      c.mentionsMarker query = false ∧ ∃ d ∈ c.defaultFilter, d.NamesMetric := by
  unfold withDefault
  cases c.defaultFilter with
  | none => simp
  | some default =>
    cases c.mentionsMarker query <;> cases typed <;> simp [Filter.namesMetric_both]

/-- **Which queries select metrics.** A compiled query does exactly if it names a metric, or the
default filter does where it is added; so it does wherever it joins the latest samples. Queries of
one shape select alike. -/
theorem metricSelected_iff (accepted : ofSettings settings = .ok c)
    (compiled : c.compile query = .ok q) :
    ∃ typed default, Filter.parse query = .ok typed ∧
      Filter.parse settings.default.expression = .ok default ∧
      (q.metricSelected = true ↔ (∃ f ∈ typed, f.NamesMetric) ∨
        c.mentionsMarker query = false ∧ ∃ d ∈ default, d.NamesMetric) ∧
      (∀ j ∈ q.joins, j.table = latestMetricsTable → q.metricSelected = true) ∧
      ∀ other typed' q', Filter.parse other = .ok typed' → c.compile other = .ok q' →
        typed'.map Filter.shape = typed.map Filter.shape →
        c.mentionsMarker other = c.mentionsMarker query → q'.metricSelected = q.metricSelected := by
  obtain ⟨dialect, default, _, _, found, _, rfl⟩ := ofSettings_eq_ok.mp accepted
  have selected : ∀ {query typed q}, Filter.parse query = .ok typed →
      compile ⟨settings, dialect, default⟩ query = .ok q →
      (q.metricSelected = true ↔ (∃ f ∈ typed, f.NamesMetric) ∨
        mentionsMarker ⟨settings, dialect, default⟩ query = false ∧
          ∃ d ∈ default, d.NamesMetric) ∧
      ∀ j ∈ q.joins, j.table = latestMetricsTable → q.metricSelected = true := by
    intro query typed q read compiled
    obtain ⟨_, r, read', resolved, rfl⟩ := compile_eq_ok_iff.mp compiled
    cases read.symm.trans read'
    obtain ⟨named, samples⟩ := Resolution.referencesMetric_iff resolved
    exact ⟨named.trans namesMetric_withDefault, samples⟩
  obtain ⟨typed, _, read, _⟩ := compile_eq_ok_iff.mp compiled
  obtain ⟨named, samples⟩ := selected read compiled
  refine ⟨typed, default, read, found, named, samples, ?_⟩
  intro other typed' q' read' compiled' same marked
  rw [Bool.eq_iff_iff, (selected read' compiled').1, named, marked,
    Filter.namesMetric_of_shape same]

/-- A tag with texts that look like metrics, or a low loss. -/
def taggedOrLow : String :=
  "run.archived or run.tags['metric.name'] == 'metric.last' or 1 > run.metrics['loss'].last"

/-- The default filter is not added to `taggedOrLow`, so the loss is the metric that is found. -/
theorem metricSelected_taggedOrLow :
    ∃ c q typed, ofSettings Settings.standard = .ok c ∧ c.compile taggedOrLow = .ok q ∧
      Filter.parse taggedOrLow = .ok typed ∧ q.metricSelected = true ∧
      ∃ f ∈ typed, f.NamesMetric := by
  have selects : ((ofSettings Settings.standard).toOption.bind fun c =>
      (c.compile taggedOrLow).toOption.map fun q =>
        (c.mentionsMarker taggedOrLow, q.metricSelected)) = some (true, true) := by
    decide +kernel
  obtain ⟨c, accepted, selects⟩ := Option.bind_eq_some_iff.mp selects
  obtain ⟨q, compiled, selects⟩ := Option.map_eq_some_iff.mp selects
  obtain ⟨marked, selected⟩ := Prod.mk.inj selects
  rw [toOption_eq_some] at accepted compiled
  obtain ⟨typed, default, read, _, named, _⟩ := metricSelected_iff accepted compiled
  refine ⟨c, q, typed, accepted, compiled, read, selected, ?_⟩
  exact (named.mp selected).resolve_right fun added => by simp [marked] at added

end Compiler

end RunFilter
