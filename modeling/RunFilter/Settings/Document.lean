import RunFilter.Settings
import RunFilter.Toml.Document
import RunFilter.Word

/-!
# Settings from a document

A TOML document may give any of the settings; those it does not give keep their standard values,
also inside of `default`. Unknown fields and values of the wrong type are refused.
-/

set_option autoImplicit false

namespace RunFilter

/-- What is wrong with a field. -/
inductive FieldError where
  | unknown (name : String)
  | mistyped (name : String)
  | outOfRange (name : String)
  deriving DecidableEq, Repr

/-- The wording of a wrong field. -/
def FieldError.message : FieldError → String
  | .unknown name => "unknown field " ++ Text.quoted name
  | .mistyped name => "wrong type of field " ++ Text.quoted name
  | .outOfRange name => "field " ++ Text.quoted name ++ " is out of range"

namespace Settings

/-- A field that holds a text. -/
def textField (name : String) : Toml.Value → Except FieldError String
  | .text s => .ok s
  | _ => .error (.mistyped name)

/-- A field that holds a whole number of 32 bits. -/
def wordField (name : String) : Toml.Value → Except FieldError Int
  | .integer n => if isWord32 n then .ok n else .error (.outOfRange name)
  | _ => .error (.mistyped name)

/-- A field of the default filter. -/
def defaultField (f : DefaultFilter) (entry : String × Toml.Value) :
    Except FieldError DefaultFilter := do
  match entry with
  | ("contains", v) => pure { f with contains := ← textField "contains" v }
  | ("expression", v) => pure { f with expression := ← textField "expression" v }
  | (name, _) => throw (.unknown name)

/-- The default filter: a table, or a list that gives the marker and the filter in this order. Items
behind these two have no meaning. -/
def defaultOfValue : Toml.Value → Except FieldError DefaultFilter
  | .table entries => entries.foldlM defaultField .standard
  | .array [] => .ok .standard
  | .array [contains] => do
    pure { DefaultFilter.standard with contains := ← textField "contains" contains }
  | .array (contains :: expression :: _) => do
    pure { contains := ← textField "contains" contains
           expression := ← textField "expression" expression }
  | _ => .error (.mistyped "default")

/-- The key under which a moment is the only entry of a table. -/
def momentKey : String := "$__toml_private_datetime"

/-- The table names. A moment in their place is a table with that moment under its own key. -/
def tablesOfValue : Toml.Value → Except FieldError Dictionary
  | .table entries => do
    pure (.ofList (← entries.mapM fun (key, v) => do pure (key, ← textField key v)))
  | .moment m => .ok (.ofList [(momentKey, m.text)])
  | _ => .error (.mistyped "tables")

/-- A field of the settings. -/
def field (s : Settings) (entry : String × Toml.Value) : Except FieldError Settings := do
  match entry with
  | ("default", v) => pure { s with default := ← defaultOfValue v }
  | ("tables", v) => pure { s with tables := ← tablesOfValue v }
  | ("timezone_offset_minutes", v) =>
    pure { s with timezoneOffsetMinutes := ← wordField "timezone_offset_minutes" v }
  | ("dialect", v) => pure { s with dialect := ← textField "dialect" v }
  | (name, _) => throw (.unknown name)

/-- **The settings of a TOML document.** -/
def ofToml (document : String) : Except SettingsError Settings := do
  let entries ← (Toml.Document.read document).mapError fun line =>
    SettingsError.malformed ("line " ++ toString line ++ " is not TOML")
  (entries.foldlM field .standard).mapError fun e => .malformed e.message

end Settings

end RunFilter
