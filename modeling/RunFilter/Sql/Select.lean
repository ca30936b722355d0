import RunFilter.Sql.Clause
import RunFilter.Sql.Identifier
import RunFilter.Sql.Placeholder

/-!
# Statements

A `SELECT` is collected part by part, each part with `?` for its values, and built at the end: the
values of the joins come first, then those of the conditions, as their marks do.
-/

set_option autoImplicit false

namespace RunFilter

/-- The parts of a `SELECT` statement. -/
structure Select where
  dialect : Dialect
  table : String
  /-- The selected columns; all columns if none is named. -/
  columns : List String
  joins : List Fragment
  conditions : List Fragment
  deriving Repr

namespace Select

/-- All rows and columns of a table. -/
def all (dialect : Dialect) (table : String) : Select :=
  { dialect, table, columns := [], joins := [], conditions := [] }

/-- One more column. -/
def column (s : Select) (name : String) : Select := { s with columns := s.columns ++ [name] }

/-- One more join. -/
def join (s : Select) (part : Fragment) : Select := { s with joins := s.joins ++ [part] }

/-- One more condition, besides those that are there. -/
def andWhere (s : Select) (part : Fragment) : Select :=
  { s with conditions := s.conditions ++ [part] }

/-- The text of the selected columns. -/
def columnList (s : Select) : String :=
  if s.columns.isEmpty then "*"
  else String.intercalate ", " (s.columns.map Sql.quoteIdentifier)

/-- The text of the conditions; each is grouped if there are several. -/
def conditionText (s : Select) : String :=
  if s.conditions.isEmpty then ""
  else
    let parts := if 1 < s.conditions.length then s.conditions.map Fragment.grouped else s.conditions
    " WHERE " ++ (Fragment.join " AND " parts).sql

/-- The statement with `?` for each value. -/
def unnumbered (s : Select) : String :=
  "SELECT " ++ s.columnList ++ " FROM " ++ Sql.quoteIdentifier s.table ++
    String.join (s.joins.map fun part => " " ++ part.sql) ++ s.conditionText

/-- **The statement**, with the placeholders of its dialect and their values. -/
def build (s : Select) : Fragment :=
  { sql := Sql.numberPlaceholders s.dialect s.unnumbered
    params := s.joins.flatMap (·.params) ++ s.conditions.flatMap (·.params) }

end Select

end RunFilter
