import RunFilter.Filter.Grammar
import RunFilter.Resolution
import RunFilter.Settings
import RunFilter.Sql.Emission
import RunFilter.Sql.Select

/-!
# Compiling queries

A compiler is made from settings once; making it checks the dialect, the table names and the
default filter. `Compiler.compile` then turns the text of a query into joins, a condition and
values, which `CompiledQuery.filter` adds to a statement.
-/

set_option autoImplicit false

namespace RunFilter

/-- Settings that have been checked. -/
structure Compiler where
  settings : Settings
  dialect : Dialect
  /-- The default filter, if there is one. -/
  defaultFilter : Option Filter
  deriving Repr

/-- A query as it is added to a statement. -/
structure CompiledQuery where
  joins : List Join
  /-- The condition with `?` for each value; none if every row passes. -/
  condition : Option Fragment
  metricSelected : Bool
  deriving DecidableEq, Repr

namespace CompiledQuery

/-- The values of the condition. -/
def whereParams (q : CompiledQuery) : List Value :=
  match q.condition with
  | some condition => condition.params
  | none => []

/-- **All values** in the order of their placeholders: those of the joins, then those of the
condition. -/
def params (q : CompiledQuery) : List Value := q.joins.flatMap (·.params) ++ q.whereParams

/-- **The statement with the joins and the condition of the query.** -/
def filter (q : CompiledQuery) (select : Select) : Select :=
  let joined := q.joins.foldl (fun select j => select.join ⟨j.sql, j.params⟩) select
  match q.condition with
  | some condition => joined.andWhere condition
  | none => joined

end CompiledQuery

namespace Compiler

/-- **The compiler of settings**, or the first mistake in them. -/
def ofSettings (settings : Settings) : Except SettingsError Compiler := do
  let some dialect := Dialect.ofName? settings.dialect
    | throw (.unsupportedDialect settings.dialect)
  settings.validateTables
  let expression := settings.default.expression
  let defaultFilter ← (Filter.parse expression).mapError .invalidDefault
  let _ ← (Resolution.ofFilter settings.tables defaultFilter).mapError fun e =>
    SettingsError.invalidDefault (e.inStatement expression)
  pure { settings, dialect, defaultFilter }

/-- Whether the text of a query mentions the marker of the default filter. -/
def mentionsMarker (c : Compiler) (query : String) : Bool :=
  Text.contains c.settings.default.contains.toList query.toList

/-- **The filter of a query with the default filter added** where the query does not mention the
marker. -/
def withDefault (c : Compiler) (query : String) (filter : Option Filter) : Option Filter :=
  match c.defaultFilter with
  | none => filter
  | some default =>
    if c.mentionsMarker query then filter
    else match filter with
      | some filter => some (filter.both default)
      | none => some default

/-- The compiled query of a resolution. -/
def ofResolution (c : Compiler) (r : Resolution) : CompiledQuery :=
  { joins := r.joins
    condition := whereFragment c.dialect r.contextFilters r.predicate
    metricSelected := r.referencesMetric }

/-- The resolution of a query, or the first mistake in it. -/
def resolve (c : Compiler) (query : String) : Except SyntaxError Resolution := do
  let filter := c.withDefault query (← Filter.parse query)
  (Resolution.ofFilter c.settings.tables filter).mapError (·.inStatement query)

/-- **The compiled form of a query**, or the first mistake in it. -/
def compile (c : Compiler) (query : String) : Except SyntaxError CompiledQuery :=
  (c.resolve query).map c.ofResolution

/-- The name of the table of runs. -/
def runsTable (c : Compiler) : String := (c.settings.tables.get? "runs").getD "runs"

/-- **The statement that selects the runs of a query.** -/
def selectRuns (c : Compiler) (q : CompiledQuery) : Fragment :=
  (q.filter ((Select.all c.dialect c.runsTable).column "run_uuid")).build

end Compiler

end RunFilter
