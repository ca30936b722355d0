/-!
# Identifiers

An identifier in double quotes denotes what is written between them; a quote inside is written
twice.
-/

set_option autoImplicit false

namespace RunFilter.Sql

/-- The characters of a quoted identifier, its outer quotes aside. -/
def doubleQuotes : List Char → List Char
  | [] => []
  | c :: cs => if c = '"' then '"' :: '"' :: doubleQuotes cs else c :: doubleQuotes cs

/-- **An identifier in quotes.** -/
def quoteIdentifier (s : String) : String :=
  String.ofList ('"' :: doubleQuotes s.toList ++ ['"'])

end RunFilter.Sql
