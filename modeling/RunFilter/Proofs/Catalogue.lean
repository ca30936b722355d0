import RunFilter.Attribute

/-!
# Which attributes the catalogue has

Of the catalogue, the proofs about attributes need under which names the attributes of a kind stand.
This is said once, by `AttributeKind.Named`, and `Entity.named_of_attribute?` goes through the lists
of attributes for it. With `AttributePath.operand_eq_ok` and `AttributePath.series_eq_ok`, what is
found under a path is known by its kind and by its names alone.
-/

set_option autoImplicit false

namespace RunFilter

/-- **The attributes that take nothing behind the field**, and that need no table but that of their
entity. -/
def Entity.ownFields : Entity → List String
  | .run => ["name", "hash", "archived", "active", "creation_time", "created_at", "end_time",
    "finalized_at", "duration"]
  | .experiment => ["name", "archived"]
  | .metric => ["name", "last", "last_step", "first_step"]

namespace AttributeKind

/-- **The attributes of a kind**, by entity and field. -/
def Named (entity : Entity) (field : String) : AttributeKind → Prop
  | .column _ | .flag _ _ | .duration => field ∈ entity.ownFields
  | .experimentName => entity = .run ∧ field = "experiment"
  | .metricSeries => entity = .run ∧ field = "metrics"
  | .keyed .tags => entity = .run ∧ field = "tags"
  | .keyed .params => entity = .run ∧ field = "params"
  | .firstStep => entity = .metric ∧ field = "first_step"
  | .context => entity = .metric ∧ field = "context"

/-- The kinds that take nothing behind the field and need no other table. -/
def isOwn : AttributeKind → Bool
  | .column _ | .flag _ _ | .duration | .firstStep => true
  | .experimentName | .metricSeries | .keyed _ | .context => false

theorem Named.mem_ownFields {entity : Entity} {field : String} {kind : AttributeKind}
    (named : kind.Named entity field) (own : kind.isOwn = true) : field ∈ entity.ownFields := by
  cases kind with
  | column | flag | duration => exact named
  | firstStep =>
    obtain ⟨rfl, rfl⟩ := named
    decide
  | experimentName | metricSeries | keyed | context => cases own

end AttributeKind

namespace Entity

variable {entity : Entity} {field : String} {entry : Attribute}

theorem ofName?_eq_some {s : String} : ofName? s = some entity ↔ s = entity.name := by
  constructor
  · intro found
    simpa [eq_comm] using List.find?_some found
  · rintro rfl
    cases entity <;> decide

/-- **The catalogue has nothing but the names of its kinds.** -/
theorem named_of_attribute? (h : entity.attribute? field = some entry) :
    entry.kind.Named entity field := by
  have name : entry.name = field := by simpa using List.find?_some h
  have all : ∀ entry ∈ entity.attributes, entry.kind.Named entity entry.name := by
    cases entity <;>
      simp only [attributes, List.forall_mem_cons, List.not_mem_nil, false_implies, implies_true,
        AttributeKind.Named, and_true, true_and] <;> decide
  exact name ▸ all entry (List.mem_of_find?_eq_some h)

/-- No attribute of its own table is called like one that is joined. -/
theorem ne_joined_of_own (own : field ∈ entity.ownFields) :
    field ≠ "metrics" ∧ field ≠ "tags" ∧ field ≠ "params" := by
  have all : ∀ field ∈ entity.ownFields,
      field ≠ "metrics" ∧ field ≠ "tags" ∧ field ≠ "params" := by
    cases entity <;> decide
  exact all field own

end Entity

/-! ## Metric series -/

/-- What is read of a metric series, with its column if it has one. -/
def seriesColumns : List (String × Option String) :=
  [("last", some "value"), ("last_step", some "last_iter"), ("first_step", none)]

/-- The origin of a metric series that a path names; context keys are in their canonical form. -/
def Origin.ofSeries (runs name : String) (context : Option Dictionary) : Origin :=
  .series runs name ((context.getD .empty).mapKeys canonicalKey)

/-- What is read of a series as a kind of attributes; without a column it is the first step. -/
def AttributeKind.ofSample : Option String → AttributeKind
  | some name => .column name
  | none => .firstStep

/-- What is read of a series as an operand. -/
def Operand.ofSample (ref : Reference) : Option String → Operand
  | some name => .column ref (.column name)
  | none => .step ref

theorem seriesMember?_of_mem {member : String} {column : Option String}
    (h : (member, column) ∈ seriesColumns) : seriesMember? member = some (.ofSample column) := by
  simp only [seriesColumns, List.mem_cons, Prod.mk.injEq, List.not_mem_nil, or_false] at h
  obtain ⟨rfl, rfl⟩ | ⟨rfl, rfl⟩ | ⟨rfl, rfl⟩ := h <;> rfl

theorem mem_seriesColumns_of_column {member column : String}
    (h : seriesMember? member = some (.column column)) : (member, some column) ∈ seriesColumns := by
  unfold seriesMember? at h
  split at h <;> cases h <;> decide

theorem mem_seriesColumns_of_other {member : String} {kind : AttributeKind}
    (h : seriesMember? member = some kind) (other : ∀ column, kind ≠ .column column) :
    (member, none) ∈ seriesColumns := by
  unfold seriesMember? at h
  split at h <;> cases h
  · exact (other _ rfl).elim
  · exact (other _ rfl).elim
  · decide

namespace AttributePath

/-- **A name in brackets, with a context or without, and a member** that is read of a series. -/
structure Sampled (p : AttributePath) (name : String) (context : Option Dictionary)
    (column : Option String) : Prop where
  subscript : p.subscript = some ⟨name, context⟩
  behind : ∃ member, p.member = some member ∧ (member, column) ∈ seriesColumns

variable {p : AttributePath}

/-- A path without a member is read as one with the empty member, which no series has. -/
theorem exists_member {kind : AttributeKind} (h : seriesMember? (p.member.getD "") = some kind) :
    ∃ member, p.member = some member ∧ seriesMember? member = some kind := by
  cases behind : p.member with
  | none =>
    rw [behind] at h
    cases h
  | some member =>
    rw [behind] at h
    exact ⟨member, rfl, h⟩

/-- **A series is found under a name with a member that it has.** -/
theorem series_eq_ok {runs : String} {operand : Operand} : p.series runs = .ok operand ↔
    ∃ name context column, p.Sampled name context column ∧
      operand = .ofSample ⟨.run, .ofSeries runs name context⟩ column := by
  constructor
  · intro found
    unfold series at found
    split at found
    · cases found
    next name context subscript =>
      dsimp only at found
      split at found
      · cases found
      next column known =>
        cases found
        obtain ⟨member, behind, known⟩ := exists_member known
        exact ⟨name, context, some column,
          ⟨subscript, member, behind, mem_seriesColumns_of_column known⟩, rfl⟩
      next kind other known =>
        cases found
        obtain ⟨member, behind, known⟩ := exists_member known
        exact ⟨name, context, none,
          ⟨subscript, member, behind, mem_seriesColumns_of_other known other⟩, rfl⟩
  · rintro ⟨name, context, column, ⟨subscript, member, behind, listed⟩, rfl⟩
    unfold series
    simp only [subscript, behind, Option.getD_some, seriesMember?_of_mem listed]
    cases column <;> rfl

end AttributePath

/-! ## Operands -/

/-- **An operand is found in three steps**: the entity, its table, and its attribute. -/
theorem AttributePath.operand_eq_ok {tables : Dictionary} {p : AttributePath} {operand : Operand} :
    p.operand tables = .ok operand ↔
      ∃ entity table entry, p.entity = entity.name ∧ tables.get? entity.tableKey = some table ∧
        entity.attribute? p.field = some entry ∧
        p.operandOf tables entity table entry.kind = .ok operand := by
  unfold AttributePath.operand
  constructor
  · intro found
    split at found
    · cases found
    next entity known =>
      split at found
      · cases found
      next table available =>
        split at found
        · cases found
        next entry listed =>
          exact ⟨entity, table, entry, Entity.ofName?_eq_some.mp known, available, listed, found⟩
  · rintro ⟨entity, table, entry, named, available, listed, found⟩
    simpa only [Entity.ofName?_eq_some.mpr named, available, listed] using found

end RunFilter
