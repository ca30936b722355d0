import RunFilter.Dialect

/-!
# Placeholders

A statement is put together with `?` for each value. At the end the marks become the placeholders
of the dialect, counted from the left; what stands between single quotes stays as it is.
-/

set_option autoImplicit false

namespace RunFilter.Sql

/-- The characters with their marks replaced; `index` is the number of the next mark, and `quoted`
says that a single quote is open. -/
def numberFrom (d : Dialect) (index : Nat) (quoted : Bool) : List Char → List Char
  | [] => []
  | c :: cs =>
    if c = '\x27' then c :: numberFrom d index (!quoted) cs
    else if c = '?' && !quoted then
      (d.placeholder index).toList ++ numberFrom d (index + 1) quoted cs
    else c :: numberFrom d index quoted cs

/-- **The statement with the placeholders of a dialect.** -/
def numberPlaceholders (d : Dialect) (sql : String) : String :=
  String.ofList (numberFrom d 1 false sql.toList)

end RunFilter.Sql
