import RunFilter.Proofs.Catalogue
import RunFilter.Proofs.Checks

/-!
# The attributes that exist

A filter names attributes by paths of texts, and a path may have a subscript, a context and a member
behind its field. Whether a path is an attribute is decided by look-ups in the catalogue and in the
table names of the settings, and by the shape that its kind asks for. `AttributePath.Allowed` says
the same without the catalogue: five ways to write an attribute, with the names spelled out and the
tables that have to be there.

**The law** (`operand_iff_allowed`): a path stands for an operand exactly if it is allowed. What is
written behind the field then shows in the operand (`Operand.Shows`), so no path passes with a part
of it left out. Any other path is a mistake about an attribute or about its subscript, reported
where the path begins.

The two directions lean on different things. That nothing else passes is one bound for each step of
the check (`within_plain` to `within_operand`), and each bound also says which mistakes the step
reports. That an allowed path passes needs the catalogue to have an entry of the right kind under
each of its names.
-/

set_option autoImplicit false

namespace RunFilter

/-! ## What is allowed -/

namespace AttributePath

/-- Nothing is written behind the field. -/
structure Bare (p : AttributePath) : Prop where
  subscript : p.subscript = none
  member : p.member = none

/-- **A key is written behind the field**: in brackets and without a context, or as a member. -/
inductive Keyed (p : AttributePath) (key : String) : Prop
  | brackets (subscript : p.subscript = some ⟨key, none⟩) (behind : p.member = none)
  | member (subscript : p.subscript = none) (behind : p.member = some key)

/-- **A path that stands for an attribute**, with the tables that it needs. -/
inductive Allowed (tables : Dictionary) (p : AttributePath) : Prop
  | own {entity : Entity} {table : String} (named : p.entity = entity.name)
    (available : tables.get? entity.tableKey = some table) (field : p.field ∈ entity.ownFields)
    (bare : p.Bare)
  | experiment {runs experiments : String} (named : p.entity = "run")
    (available : tables.get? "runs" = some runs) (field : p.field = "experiment")
    (joined : tables.get? "experiments" = some experiments) (bare : p.Bare)
  | series {runs name : String} {context : Option Dictionary} {column : Option String}
    (named : p.entity = "run") (available : tables.get? "runs" = some runs)
    (field : p.field = "metrics") (sampled : p.Sampled name context column)
  | stored {runs key : String} (named : p.entity = "run")
    (available : tables.get? "runs" = some runs) (field : p.field ∈ ["tags", "params"])
    (keyed : p.Keyed key)
  | context {metrics contexts key : String} (named : p.entity = "metric")
    (available : tables.get? "metrics" = some metrics) (field : p.field = "context")
    (joined : tables.get? "contexts" = some contexts) (keyed : p.Keyed key)

end AttributePath

/-- **What is written behind the field shows in the operand.** -/
inductive Operand.Shows (p : AttributePath) : Operand → Prop
  /-- Nothing is written there. -/
  | nothing {operand : Operand} (bare : p.Bare) : Shows p operand
  /-- The entry is that of the key. -/
  | entry {entity : Entity} {runs key : String} {store : KeyStore} {part : Part}
    (keyed : p.Keyed key) : Shows p (.column ⟨entity, .keyed runs store key⟩ part)
  /-- The way into the document is the key. -/
  | document {ref : Reference} {key : String} (keyed : p.Keyed key) :
    Shows p (.column ref (.document (documentPath (canonicalKey key))))
  /-- The series is that of the name and the context, the column that of the member. -/
  | sample {entity : Entity} {runs name : String} {context : Option Dictionary}
    {column : Option String} (sampled : p.Sampled name context column) :
    Shows p (.ofSample ⟨entity, .ofSeries runs name context⟩ column)

/-- A mistake about an attribute or about its subscript. -/
def Fault.OfAttribute (fault : Fault) : Prop :=
  fault.kind = .unknownAttribute ∨ fault.kind = .malformedSubscript

/-! ## The catalogue -/

namespace Entity

variable {entity : Entity} {field : String}

/-- The kind of the attribute of a name. -/
def kind? (entity : Entity) (field : String) : Option AttributeKind :=
  (entity.attribute? field).map (·.kind)

theorem kind?_of_own (h : field ∈ entity.ownFields) :
    ∃ kind, entity.kind? field = some kind ∧ kind.isOwn = true := by
  have all : ∀ field ∈ entity.ownFields, (entity.kind? field).any (·.isOwn) = true := by
    cases entity <;> decide
  exact (Option.any_eq_true _ _).mp (all field h)

theorem kind?_of_stored (h : field ∈ ["tags", "params"]) :
    ∃ store, Entity.run.kind? field = some (.keyed store) := by
  simp only [List.mem_cons, List.not_mem_nil, or_false] at h
  obtain rfl | rfl := h
  · exact ⟨.tags, rfl⟩
  · exact ⟨.params, rfl⟩

end Entity

/-! ## The steps of the check -/

namespace AttributePath

variable {tables : Dictionary} {p : AttributePath}

theorem within_plain : Within Fault.OfAttribute (fun _ => p.Bare) p.plain := by
  unfold plain
  split
  · exact .inr rfl
  next closed =>
    have subscript : p.subscript = none := by simpa using closed
    split
    · exact .inl rfl
    next behind => exact ⟨subscript, behind⟩

theorem plain_of_bare (bare : p.Bare) : p.plain = .ok () := by
  simp [plain, bare.subscript, bare.member]

theorem within_key : Within Fault.OfAttribute p.Keyed p.key := by
  unfold key
  split
  · exact .inr rfl
  next subscript behind => exact .brackets subscript behind
  · exact .inl rfl
  next subscript behind => exact .member subscript behind
  · exact .inl rfl

theorem key_of_keyed {key : String} (keyed : p.Keyed key) : p.key = .ok key := by
  cases keyed with
  | brackets subscript behind => simp [AttributePath.key, subscript, behind]
  | member subscript behind => simp [AttributePath.key, subscript, behind]

theorem ofAttribute_of_series {runs : String} {fault : Fault}
    (refused : p.series runs = .error fault) : fault.OfAttribute := by
  unfold series at refused
  split at refused
  · cases refused
    exact .inl rfl
  · dsimp only at refused
    split at refused <;> cases refused
    exact .inl rfl

theorem within_series {runs : String} :
    Within Fault.OfAttribute
      (fun operand => (∃ name context column, p.Sampled name context column) ∧ operand.Shows p)
      (p.series runs) := by
  cases answer : p.series runs with
  | error fault => exact ofAttribute_of_series answer
  | ok operand =>
    obtain ⟨name, context, column, sampled, rfl⟩ := series_eq_ok.mp answer
    exact ⟨⟨name, context, column, sampled⟩, .sample sampled⟩

/-! ## From the catalogue to paths -/

theorem within_operandOf {entity : Entity} {table : String} (named : p.entity = entity.name)
    (available : tables.get? entity.tableKey = some table) {kind : AttributeKind}
    (field : kind.Named entity p.field) :
    Within Fault.OfAttribute (fun operand => p.Allowed tables ∧ operand.Shows p)
      (p.operandOf tables entity table kind) := by
  cases kind with
  | column | flag | duration | firstStep =>
    exact within_plain.bind fun _ _ bare =>
      ⟨.own named available (field.mem_ownFields rfl) bare, .nothing bare⟩
  | experimentName =>
    obtain ⟨rfl, field⟩ := field
    refine within_plain.bind fun _ _ bare => ?_
    split
    · exact .inl rfl
    next joined => exact ⟨.experiment named available field joined bare, .nothing bare⟩
  | metricSeries =>
    obtain ⟨rfl, field⟩ := field
    exact within_series.mono fun _ ⟨⟨_, _, _, sampled⟩, shows⟩ =>
      ⟨.series named available field sampled, shows⟩
  | keyed store =>
    obtain ⟨rfl, listed⟩ : entity = .run ∧ p.field ∈ ["tags", "params"] := by
      cases store <;> obtain ⟨rfl, field⟩ := field <;> simp [field]
    exact within_key.bind fun _ _ keyed => ⟨.stored named available listed keyed, .entry keyed⟩
  | context =>
    obtain ⟨rfl, field⟩ := field
    refine within_key.bind fun _ _ keyed => ?_
    split
    · exact .inl rfl
    next joined => exact ⟨.context named available field joined keyed, .document keyed⟩

/-- **What passes is allowed and shows in the operand**, and what does not is a mistake about the
attribute. -/
theorem within_operand :
    Within Fault.OfAttribute (fun operand => p.Allowed tables ∧ operand.Shows p)
      (p.operand tables) := by
  unfold operand
  split
  · exact .inl rfl
  next entity known =>
    split
    · exact .inl rfl
    next table available =>
      split
      · exact .inl rfl
      next entry listed =>
        exact within_operandOf (Entity.ofName?_eq_some.mp known) available
          (Entity.named_of_attribute? listed)

theorem operand_of_kind (entity : Entity) {table : String} {kind : AttributeKind}
    {operand : Operand} (named : p.entity = entity.name)
    (available : tables.get? entity.tableKey = some table)
    (known : entity.kind? p.field = some kind)
    (found : p.operandOf tables entity table kind = .ok operand) :
    p.operand tables = .ok operand := by
  obtain ⟨entry, listed, rfl⟩ := Option.map_eq_some_iff.mp known
  exact operand_eq_ok.mpr ⟨entity, table, entry, named, available, listed, found⟩

theorem operandOf_of_own {entity : Entity} {table : String} {kind : AttributeKind}
    (own : kind.isOwn = true) (bare : p.Bare) :
    ∃ operand, p.operandOf tables entity table kind = .ok operand := by
  have plain : p.plain = .ok () := plain_of_bare bare
  cases kind with
  | column | flag | duration | firstStep =>
    simp only [operandOf, plain, ok_bind]
    exact ⟨_, rfl⟩
  | experimentName | metricSeries | keyed | context => cases own

/-- **An allowed path passes.** -/
theorem operand_of_allowed (allowed : p.Allowed tables) :
    ∃ operand, p.operand tables = .ok operand := by
  cases allowed with
  | own named available field bare =>
    obtain ⟨kind, known, own⟩ := Entity.kind?_of_own field
    obtain ⟨operand, found⟩ := operandOf_of_own own bare
    exact ⟨operand, operand_of_kind _ named available known found⟩
  | @experiment runs experiments named available field joined bare =>
    have known : Entity.run.kind? p.field = some .experimentName := by rw [field]; rfl
    have found : p.operandOf tables .run runs .experimentName =
        .ok (.column ⟨.run, .table experiments⟩ (.column "name")) := by
      simp only [operandOf, plain_of_bare bare, ok_bind, Entity.tableKey, joined]
      rfl
    exact ⟨_, operand_of_kind .run named available known found⟩
  | @series runs name context column named available field sampled =>
    have known : Entity.run.kind? p.field = some .metricSeries := by rw [field]; rfl
    have found : p.series runs = .ok (.ofSample ⟨.run, .ofSeries runs name context⟩ column) :=
      series_eq_ok.mpr ⟨name, context, column, sampled, rfl⟩
    exact ⟨_, operand_of_kind .run named available known found⟩
  | @stored runs key named available field keyed =>
    obtain ⟨store, known⟩ := Entity.kind?_of_stored field
    have found : p.operandOf tables .run runs (.keyed store) =
        .ok (.column ⟨.run, .keyed runs store key⟩ (.column "value")) := by
      simp only [operandOf, key_of_keyed keyed, ok_bind]
      rfl
    exact ⟨_, operand_of_kind .run named available known found⟩
  | @context metrics contexts key named available field joined keyed =>
    have known : Entity.metric.kind? p.field = some .context := by rw [field]; rfl
    have found : p.operandOf tables .metric metrics .context =
        .ok (.column ⟨.metric, .table contexts⟩ (.document (documentPath (canonicalKey key)))) := by
      simp only [operandOf, key_of_keyed keyed, ok_bind, contextsKey, joined]
      rfl
    exact ⟨_, operand_of_kind .metric named available known found⟩

end AttributePath

/-! ## The law -/

namespace Filter

/-- **The attributes that exist.** A path stands for an operand exactly if it is allowed, and the
operand shows what is written behind the field; every mistake is about the attribute or about its
subscript, where the path begins. -/
theorem operand_iff_allowed (tables : Dictionary) (p : AttributePath) (place : Nat) :
    ((∃ operand, (Filter.attribute p).operand? tables place = .ok operand) ↔ p.Allowed tables) ∧
      (∀ operand, (Filter.attribute p).operand? tables place = .ok operand → operand.Shows p) ∧
      ∀ x, (Filter.attribute p).operand? tables place = .error x →
        x.offset = p.offset ∧ (x.kind = .unknownAttribute ∨ x.kind = .malformedSubscript) := by
  have bounds : Within
      (fun x : SyntaxError => x.offset = p.offset ∧
        (x.kind = .unknownAttribute ∨ x.kind = .malformedSubscript))
      (fun operand => p.Allowed tables ∧ operand.Shows p)
      ((Filter.attribute p).operand? tables place) :=
    AttributePath.within_operand.mapError (fun _ about => ⟨rfl, about⟩) fun _ found => found
  refine ⟨⟨fun ⟨_, found⟩ => (bounds.of_ok found).1, fun allowed => ?_⟩,
    fun _ found => (bounds.of_ok found).2, fun _ mistake => bounds.of_error mistake⟩
  obtain ⟨operand, found⟩ := AttributePath.operand_of_allowed allowed
  exact ⟨operand, by rw [operand?, found, ok_mapError]⟩

end Filter

end RunFilter
