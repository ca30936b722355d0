import RunFilter.Dictionary
import RunFilter.Fault
import RunFilter.Text.Ascii

/-!
# Settings

What a compiler of filters is made from: the dialect by name, the names of the tables, and the
filter that is added to every query whose text does not mention it. Table names are spliced into
statements, so only plain identifiers are accepted.
-/

set_option autoImplicit false

namespace RunFilter

/-- The filter that is added where a query does not contain a marker. -/
structure DefaultFilter where
  /-- The marker. -/
  contains : String
  /-- The filter text; the empty text adds nothing. -/
  expression : String
  deriving DecidableEq, Repr

/-- The settings of a compiler. -/
structure Settings where
  default : DefaultFilter
  /-- The names of tables under the keys of the catalogue. -/
  tables : Dictionary
  /-- Carried along for those who print dates. -/
  timezoneOffsetMinutes : Int
  /-- The name of the dialect. -/
  dialect : String
  deriving DecidableEq, Repr

/-- Deleted runs are left out of queries that do not ask for them. -/
def DefaultFilter.standard : DefaultFilter :=
  { contains := "run.archived", expression := "not run.archived" }

/-- The tables under their usual names. -/
def Settings.standardTables : Dictionary :=
  .ofList [("runs", "runs"), ("experiments", "experiments"), ("metrics", "latest_metrics"),
    ("contexts", "contexts")]

/-- The settings that hold where nothing else is said. -/
def Settings.standard : Settings :=
  { default := .standard
    tables := Settings.standardTables
    timezoneOffsetMinutes := 0
    dialect := "postgres" }

/-- What can be wrong with settings. -/
inductive SettingsError where
  | unsupportedDialect (name : String)
  | missingTable (key : String)
  | invalidTableName (entity name : String)
  /-- The default filter is wrong. -/
  | invalidDefault (error : SyntaxError)
  /-- The file of the settings cannot be read. -/
  | unreadable (path : String)
  /-- The file of the settings is not a document of settings. -/
  | malformed (reason : String)
  deriving DecidableEq, Repr

/-- The wording of a mistake in settings. -/
def SettingsError.message : SettingsError → String
  | .unsupportedDialect name =>
    "unsupported dialect " ++ Text.quoted name ++ " (expected \"postgres\" or \"sqlite\")"
  | .missingTable key => "table map has no entry for required entity " ++ Text.quoted key
  | .invalidTableName entity name =>
    "invalid table name " ++ Text.quoted name ++ " for entity " ++ Text.quoted entity
  | .invalidDefault error => "default expression does not compile: " ++ error.display
  | .unreadable path => "failed to read config " ++ path
  | .malformed reason => "failed to parse TOML config: " ++ reason

namespace Settings

/-- The first table name, in the order of the keys, that is no identifier. -/
def firstInvalid? (tables : Dictionary) : Option (String × String) :=
  tables.entries.find? fun entry => !Text.isIdentifier entry.2

/-- **The check of the table names**: the runs have a table, and every name is an identifier. -/
def validateTables (s : Settings) : Except SettingsError Unit :=
  if (s.tables.get? "runs").isNone then .error (.missingTable "runs")
  else match firstInvalid? s.tables with
    | some (entity, name) => .error (.invalidTableName entity name)
    | none => .ok ()

end Settings

end RunFilter
