import RunFilter.Compiler
import RunFilter.Manual
import RunFilter.Settings.Document

/-!
# Checking a query

`check` compiles one query and shows the result as JSON, or only reads the query. What it needs of
the outside, the text of the settings file, is given to it.
-/

set_option autoImplicit false

namespace RunFilter.Command

/-- What a command can fail with. -/
inductive CommandError where
  | query (error : SyntaxError)
  | settings (error : SettingsError)
  | unknownCategory (name : String)
  deriving DecidableEq, Repr

namespace CommandError

/-- The wording of a failure. -/
def message : CommandError → String
  | .query error => error.display
  | .settings error => "Configuration error: " ++ error.message
  | .unknownCategory name =>
    "Unknown category: '" ++ name ++ "'\nRun 'runql docs' to see available categories."

/-- The excerpt under a failure: only a mistake in the query has one. -/
def excerpt : CommandError → Option String
  | .query error => error.excerpt
  | _ => none

end CommandError

/-- What to check, and how. -/
structure CheckOptions where
  query : String
  /-- The file of the settings; standard settings without it. -/
  settingsPath : Option String
  /-- The dialect in place of that of the settings. -/
  dialect : Option String
  /-- Whether to show the statement that selects the runs. -/
  select : Bool
  /-- Whether to read the query only. -/
  readOnly : Bool
  deriving DecidableEq, Repr

/-- What a check shows. -/
inductive CheckResult where
  | readable
  | compiled (document : Json)
  deriving Repr

/-! ## The compiled query as JSON -/

/-- A list of values. -/
def valuesDocument (values : List Value) : Json := .array (values.map Json.ofValue)

/-- A join; the context is left out if it is empty. -/
def joinDocument (j : Join) : Json :=
  Json.record ([("signature", .text j.signature), ("table", .text j.table),
    ("alias", .text j.aliasName), ("on_condition", .text j.condition),
    ("params", valuesDocument j.params)] ++
    if j.context.isEmpty then [] else [("context", Json.ofDictionary j.context)])

/-- **A compiled query**, with the statement if it is given. -/
def queryDocument (q : CompiledQuery) (statement : Option Fragment) : Json :=
  let condition := match q.condition with
    | some condition => Json.text condition.sql
    | none => .null
  let selected := match statement with
    | some s => [("sql", Json.text s.sql), ("params", valuesDocument s.params)]
    | none => []
  Json.record ([("joins", .array (q.joins.map joinDocument)), ("where", condition),
    ("where_params", valuesDocument q.whereParams),
    ("metric_selected", .bool q.metricSelected)] ++ selected)

/-! ## The check -/

/-- The file that a check reads. -/
def CheckOptions.file? (o : CheckOptions) : Option String :=
  if o.readOnly then none else o.settingsPath

/-- The settings of a check; `file` is the text of the settings file if it can be read. -/
def CheckOptions.settings (o : CheckOptions) (file : Option String) :
    Except SettingsError Settings := do
  let settings ← match o.settingsPath, file with
    | none, _ => pure Settings.standard
    | some _, some document => Settings.ofToml document
    | some path, none => throw (.unreadable path)
  pure { settings with dialect := o.dialect.getD settings.dialect }

/-- **The check of a query.** -/
def CheckOptions.run (o : CheckOptions) (file : Option String) :
    Except CommandError CheckResult := do
  if o.readOnly then
    let _ ← (Filter.parse o.query).mapError CommandError.query
    pure .readable
  else
    let settings ← (o.settings file).mapError CommandError.settings
    let compiler ← (Compiler.ofSettings settings).mapError CommandError.settings
    let q ← (compiler.compile o.query).mapError CommandError.query
    pure (.compiled (queryDocument q (if o.select then some (compiler.selectRuns q) else none)))

end RunFilter.Command
