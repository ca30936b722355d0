import RunFilter.Operator
import RunFilter.Text.Split

/-!
# The catalogue of attributes

Which attributes exist, and where each is stored. A filter can name nothing else. Entities live in
tables whose names the settings give under a key of the entity; tags, params, metric series and
metric contexts live in tables of their own, which are joined for each key that a filter names.
-/

set_option autoImplicit false

namespace RunFilter

/-- The two stores of texts that a run has under keys. -/
inductive KeyStore where
  | tags
  | params
  deriving DecidableEq, Repr

/-- The table of a store. -/
def KeyStore.table : KeyStore → String
  | .tags => "tags"
  | .params => "params"

/-- How an attribute is stored. -/
inductive AttributeKind where
  /-- A column of the table of its entity. -/
  | column (name : String)
  /-- True where a column has a value. -/
  | flag (column value : String)
  /-- The seconds between the start and the end of a run. -/
  | duration
  /-- The name of the experiment of a run. -/
  | experimentName
  /-- The latest sample of a metric, joined by name and context. -/
  | metricSeries
  /-- A text of a store, joined by its key. -/
  | keyed (store : KeyStore)
  /-- A text inside the context document of a metric. -/
  | context
  /-- The first step, which no column holds: see `firstStep`. -/
  | firstStep
  deriving DecidableEq, Repr

/-- An attribute of an entity. -/
structure Attribute where
  name : String
  kind : AttributeKind
  description : String
  deriving DecidableEq, Repr

/-- What attributes belong to. -/
inductive Entity where
  | run
  | experiment
  | metric
  deriving DecidableEq, Repr

/-- The step of the first sample of every metric. -/
def firstStep : Int := 0

/-- The table of the latest samples, one for each run, metric and context. -/
def latestMetricsTable : String := "latest_metrics"

/-- The table of the context documents. -/
def contextsTable : String := "contexts"

/-- The key under which the settings may name a table of context documents. -/
def contextsKey : String := "contexts"

/-- The column of a context document. -/
def contextColumn : String := "json"

namespace Entity

/-- All entities, in the order of the documentation. -/
def all : List Entity := [.run, .experiment, .metric]

/-- The name in filters. -/
def name : Entity → String
  | .run => "run"
  | .experiment => "experiment"
  | .metric => "metric"

/-- The key under which the settings name the table. -/
def tableKey : Entity → String
  | .run => "runs"
  | .experiment => "experiments"
  | .metric => "metrics"

/-- **The attributes of an entity**, in the order of the documentation. -/
def attributes : Entity → List Attribute
  | .run => [
    ⟨"name", .column "name", "run name"⟩,
    ⟨"hash", .column "run_uuid", "run id"⟩,
    ⟨"experiment", .experimentName, "name of the run's experiment"⟩,
    ⟨"archived", .flag "lifecycle_stage" "deleted", "true for deleted runs"⟩,
    ⟨"active", .flag "status" "RUNNING", "true for running runs"⟩,
    ⟨"creation_time", .column "start_time", "start time, epoch milliseconds"⟩,
    ⟨"created_at", .column "start_time", "alias of creation_time"⟩,
    ⟨"end_time", .column "end_time", "end time, epoch milliseconds"⟩,
    ⟨"finalized_at", .column "end_time", "alias of end_time"⟩,
    ⟨"duration", .duration, "run duration in seconds"⟩,
    ⟨"metrics", .metricSeries,
      "latest metric value: metrics[\"key\", \x7bcontext\x7d].last / .last_step / .first_step"⟩,
    ⟨"tags", .keyed .tags, "tag value: tags[\"key\"] or tags.key"⟩,
    ⟨"params", .keyed .params, "param value: params[\"key\"] or params.key"⟩]
  | .experiment => [
    ⟨"name", .column "name", "experiment name"⟩,
    ⟨"archived", .flag "lifecycle_stage" "deleted", "true for deleted experiments"⟩]
  | .metric => [
    ⟨"name", .column "key", "metric key"⟩,
    ⟨"last", .column "value", "latest value"⟩,
    ⟨"last_step", .column "last_iter", "latest step"⟩,
    ⟨"first_step", .firstStep, "first step, always 0"⟩,
    ⟨"context", .context, "context value: context.key or context[\"key\"]"⟩]

/-- The entity of a name. -/
def ofName? (s : String) : Option Entity := all.find? fun e => e.name = s

/-- The attribute of a name. -/
def attribute? (e : Entity) (s : String) : Option Attribute :=
  e.attributes.find? fun a => a.name = s

end Entity

/-- What a member of a metric series is stored as. -/
def seriesMember? : String → Option AttributeKind
  | "last" => some (.column "value")
  | "last_step" => some (.column "last_iter")
  | "first_step" => some .firstStep
  | _ => none

/-- **The canonical form of a context key**: without `$.` at its beginning. -/
def canonicalKey (key : String) : String :=
  match key.toList with
  | '$' :: '.' :: rest => String.ofList rest
  | _ => key

/-- The keys on the way into a context document: a dot leads one level down. -/
def documentPath (key : String) : List String :=
  (Text.split '.' key.toList).map String.ofList

end RunFilter
