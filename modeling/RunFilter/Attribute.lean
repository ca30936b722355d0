import RunFilter.Catalogue
import RunFilter.Fault
import RunFilter.Filter

/-!
# Attributes of a filter

`AttributePath.operand` looks a path up in the catalogue and in the table names of the settings,
and refuses every subscript, context or member that the attribute does not take. What it gives is
still without joins: an attribute that lives in a joined table is known by what the join has to
select, its `Origin`.
-/

set_option autoImplicit false

namespace RunFilter

/-- Where the column of an attribute is found. -/
inductive Origin where
  /-- A table that the settings name. -/
  | table (name : String)
  /-- The latest samples of the metric `name`, of one context if the context is not empty. -/
  | series (runs name : String) (context : Dictionary)
  /-- The entry of a store under a key. -/
  | keyed (runs : String) (store : KeyStore) (key : String)
  deriving DecidableEq, Repr

/-- What is read where the attribute is found. -/
inductive Part where
  | column (name : String)
  /-- The seconds between the start and the end of a run. -/
  | duration
  /-- A text inside a context document. -/
  | document (path : List String)
  deriving DecidableEq, Repr

/-- An attribute that exists. -/
structure Reference where
  entity : Entity
  origin : Origin
  deriving DecidableEq, Repr

/-- Whether the attribute is one of a metric. -/
def Reference.isMetric (r : Reference) : Bool :=
  match r.entity, r.origin with
  | .metric, _ => true
  | _, .series .. => true
  | _, _ => false

/-- One side of a comparison or an argument of a call. -/
inductive Operand where
  /-- A text or a number in a column. -/
  | column (ref : Reference) (part : Part)
  /-- A condition of its own: true where the column has the value. -/
  | flag (ref : Reference) (column value : String)
  /-- The first step, known without a column. -/
  | step (ref : Reference)
  | constant (value : Value)
  | list (values : List Value)
  deriving DecidableEq, Repr

namespace AttributePath

/-- Refuses a subscript and a member. -/
def plain (p : AttributePath) : Except Fault Unit :=
  if p.subscript.isSome then .error (.subscriptNotTaken p.entity p.field)
  else match p.member with
    | some member => .error (.unknownMember p.entity p.field member)
    | none => .ok ()

/-- **The key of a path** that takes one: in brackets, or as a member. -/
def key (p : AttributePath) : Except Fault String :=
  match p.subscript, p.member with
  | some ⟨_, some _⟩, _ => .error (.contextNotTaken p.entity p.field)
  | some ⟨name, none⟩, none => .ok name
  | some _, some member => .error (.memberOfKey p.entity p.field member)
  | none, some member => .ok member
  | none, none => .error (.keyMissing p.entity p.field)

/-- **The operand of a metric series**: a name in brackets and a member. Context keys are taken in
their canonical form. -/
def series (p : AttributePath) (runs : String) : Except Fault Operand :=
  match p.subscript with
  | none => .error .seriesWithoutName
  | some ⟨name, context⟩ =>
    let member := p.member.getD ""
    let origin := Origin.series runs name ((context.getD .empty).mapKeys canonicalKey)
    match seriesMember? member with
    | none => .error (.seriesMember member)
    | some (.column column) => .ok (.column ⟨.run, origin⟩ (.column column))
    | some _ => .ok (.step ⟨.run, origin⟩)

/-- The operand of an attribute of the catalogue, for the table of its entity. -/
def operandOf (tables : Dictionary) (p : AttributePath) (entity : Entity) (table : String) :
    AttributeKind → Except Fault Operand
  | .column column => do
    p.plain
    pure (.column ⟨entity, .table table⟩ (.column column))
  | .flag column value => do
    p.plain
    pure (.flag ⟨entity, .table table⟩ column value)
  | .duration => do
    p.plain
    pure (.column ⟨entity, .table table⟩ .duration)
  | .experimentName => do
    p.plain
    match tables.get? (Entity.tableKey .experiment) with
    | none => throw .experimentUnavailable
    | some experiments => pure (.column ⟨entity, .table experiments⟩ (.column "name"))
  | .metricSeries => p.series table
  | .keyed store => do
    pure (.column ⟨entity, .keyed table store (← p.key)⟩ (.column "value"))
  | .firstStep => do
    p.plain
    pure (.step ⟨entity, .table table⟩)
  | .context => do
    let key ← p.key
    match tables.get? contextsKey with
    | none => throw .contextUnavailable
    | some contexts =>
      pure (.column ⟨entity, .table contexts⟩ (.document (documentPath (canonicalKey key))))

/-- **The operand that a path stands for**, or what is wrong with the path. -/
def operand (tables : Dictionary) (p : AttributePath) : Except Fault Operand :=
  match Entity.ofName? p.entity with
  | none => .error (.unknownEntity p.entity)
  | some entity =>
    match tables.get? entity.tableKey with
    | none => .error (.entityUnavailable entity.name)
    | some table =>
      match entity.attribute? p.field with
      | none => .error (.unknownField p.entity p.field)
      | some entry => p.operandOf tables entity table entry.kind

end AttributePath

end RunFilter
