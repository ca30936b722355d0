import RunFilter.Catalogue
import RunFilter.Text.Ascii

/-!
# The manual

The pages of documentation that the program prints: an overview and four categories. The page of
attributes is written from the catalogue; the others are fixed.
-/

set_option autoImplicit false

namespace RunFilter.Manual

/-- A category of the documentation. -/
inductive Category where
  | language
  | attributes
  | operators
  | dialects
  deriving DecidableEq, Repr

/-- The name of a category. -/
def Category.name : Category → String
  | .language => "syntax"
  | .attributes => "attributes"
  | .operators => "operators"
  | .dialects => "dialects"

/-- A text with `_` for every `-`. -/
def underscored (s : String) : String :=
  String.ofList (s.toList.map fun c => if c = '-' then '_' else c)

/-- The category of a name or of a short form of it, whatever the case of its letters. -/
def Category.ofName? (s : String) : Option Category :=
  match underscored (Text.lower s) with
  | "syntax" => some .language
  | "attributes" | "attrs" | "fields" => some .attributes
  | "operators" | "ops" | "functions" => some .operators
  | "dialects" | "dialect" | "sql" => some .dialects
  | _ => none

/-- A page of lines. -/
def page (lines : List String) : String := String.join (lines.map (· ++ "\n"))

/-- The categories and some filters to begin with. -/
def overview : String :=
  page [
    "RUNQL DOCUMENTATION",
    "",
    "runql compiles the Python-like search filters typed into an experiment",
    "tracker's search box into parameterized SQL for Postgres or SQLite.",
    "",
    "DOCUMENTATION CATEGORIES",
    "",
    "  syntax            Literals, attribute paths, subscripts, and precedence",
    "  attributes        Every attribute a filter can reference",
    "  operators         Comparisons, membership, string methods, and regexes",
    "  dialects          How each construct renders on Postgres and SQLite",
    "",
    "QUICK REFERENCE",
    "",
    "  run.name == 'bert'                       Equality",
    "  'bert' in run.name                       Substring",
    "  run.metrics['loss'].last < 0.1           Latest metric value",
    "  run.tags['team'] in ['nlp', 'cv']        List membership",
    "  re.match('test_', run.name)              Anchored regex",
    "",
    "Run 'runql doc <category>' for detailed documentation."]

/-- Literals, paths, subscripts and precedence. -/
def languagePage : String :=
  page [
    "SYNTAX",
    "",
    "LITERALS",
    "  'text' or \"text\"      Strings, no escape sequences",
    "  42, -1                Integers",
    "  0.5, -1.0, 1e-3       Floats",
    "  True, False           Booleans (true/false also accepted)",
    "  None                  Null, compares with == and != only",
    "  ['a', 'b']            Lists, right side of 'in' only",
    "",
    "ATTRIBUTE PATHS",
    "  entity.field",
    "  entity.field.member",
    "  entity.field[subscript].member",
    "",
    "  run.name",
    "  run.tags.team",
    "  run.metrics[\"loss\", \x7b\"subset\": \"train\"\x7d].last",
    "",
    "SUBSCRIPTS",
    "  [\"name\"]                          Name only",
    "  [\"name\", \x7b\"key\": \"value\"\x7d]        Name and context, values are strings",
    "",
    "  The name always comes first. A context without a name is an error.",
    "",
    "PRECEDENCE (tightest first)",
    "  1. attribute access, subscripts, calls",
    "  2. == != < <= > >= in not in is is not   (chains: a < b < c)",
    "  3. not",
    "  4. and",
    "  5. or",
    "",
    "  not run.name == 'a'   reads as   not (run.name == 'a')",
    "",
    "  Groups and 'not' prefixes nest at most 100 deep.",
    "",
    "DEFAULT FILTER",
    "  Unless the query text mentions the configured marker (run.archived by",
    "  default), the default expression (not run.archived) is ANDed on. An",
    "  empty query returns the default filter alone."]

/-- Comparisons, membership, methods and patterns. -/
def operatorsPage : String :=
  page [
    "OPERATORS",
    "",
    "COMPARISON",
    "  ==  !=  <  <=  >  >=",
    "  is, is not                   Same as == and !=: run.tags.x is None",
    "  The literal may be on either side: 10 < run.duration",
    "",
    "MEMBERSHIP",
    "  'sub' in run.name            Substring (LIKE '%sub%')",
    "  'sub' not in run.name        Negated substring",
    "  run.tags.x in ['a', 'b']     List membership (IN)",
    "  run.tags.x not in ['a']      Negated list membership",
    "",
    "BOOLEAN ATTRIBUTES",
    "  run.archived                 Same as run.archived == True",
    "  run.active == False",
    "  not run.archived",
    "",
    "STRING METHODS",
    "  run.name.startswith('pre')   LIKE 'pre%'",
    "  run.name.endswith('suf')     LIKE '%suf'",
    "",
    "REGULAR EXPRESSIONS",
    "  re.match('pat', run.name)    Anchored at the start",
    "  re.search('pat', run.name)   Anywhere in the value",
    "",
    "NULL CHECKS",
    "  run.tags.note == None        IS NULL",
    "  run.tags.note != None        IS NOT NULL",
    "",
    "LOGICAL",
    "  and, or, not, parentheses"]

/-- How the dialects spell what differs between them. -/
def dialectsPage : String :=
  page [
    "DIALECTS",
    "",
    "  construct        postgres                     sqlite",
    "  placeholder      $1, $2, ...                  ?",
    "  regex            col ~ ?                      IFNULL(col, '') REGEXP ?",
    "  negated regex    col !~ ?                     IFNULL(col, '') NOT REGEXP ?",
    "  JSON key         col#>>? with \x7ba,b\x7d           IFNULL(col, JSON('\x7b\x7d'))->>? with $.a.b",
    "",
    "  SQLite has no built-in REGEXP; register a regexp(pattern, value)",
    "  function on each connection.",
    "",
    "  Select the dialect with dialect = \"postgres\" or \"sqlite\" in the config",
    "  file, or --dialect on the command line."]

/-- A text with blanks behind it up to a width. -/
def padded (width : Nat) (s : String) : String :=
  s ++ String.ofList (List.replicate (width - s.length) ' ')

/-- The line of an attribute. -/
def attributeLine (e : Entity) (a : Attribute) : String :=
  "  " ++ padded 24 (e.name ++ "." ++ a.name) ++ a.description

/-- The lines of an entity. -/
def entityLines (e : Entity) : List String :=
  ["", Text.upper e.name ++ " (table key '" ++ e.tableKey ++ "')"] ++
    e.attributes.map (attributeLine e)

/-- **Every attribute of the catalogue.** -/
def attributesPage : String :=
  page (["ATTRIBUTES"] ++ Entity.all.flatMap entityLines ++
    ["", "Unknown attributes are rejected; there is no fallback lookup.",
      "Entities missing from the configured table map are unavailable."])

/-- The page of a category. -/
def Category.text : Category → String
  | .language => languagePage
  | .attributes => attributesPage
  | .operators => operatorsPage
  | .dialects => dialectsPage

end RunFilter.Manual
