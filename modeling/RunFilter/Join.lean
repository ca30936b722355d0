import RunFilter.Dictionary
import RunFilter.Value

/-!
# Joins

The joins of a statement stand in a table that only grows. A join is asked for by its signature;
the first request makes it, under the next free index, and later ones find it.
-/

set_option autoImplicit false

namespace RunFilter

/-- A join of a statement. -/
structure Join where
  /-- What the join selects; no two joins of a statement have one signature. -/
  signature : String
  table : String
  aliasName : String
  /-- The condition of the join, with `?` for each parameter. -/
  condition : String
  params : List Value
  /-- The context that the join selects by tests in the statement, under canonical keys. -/
  context : Dictionary
  deriving DecidableEq, Repr

/-- The join in a statement, with `?` for each parameter. -/
def Join.sql (j : Join) : String :=
  "LEFT JOIN " ++ j.table ++ " " ++ j.aliasName ++ " ON " ++ j.condition

/-- The joins of a statement in the order of their indices. -/
structure JoinTable where
  joins : List Join
  deriving DecidableEq, Repr

namespace JoinTable

/-- No joins. -/
def empty : JoinTable := ⟨[]⟩

/-- The index of the join with a signature. -/
def index? (t : JoinTable) (signature : String) : Option Nat :=
  t.joins.findIdx? fun j => j.signature = signature

/-- The join at an index. -/
def get? (t : JoinTable) (index : Nat) : Option Join := t.joins[index]?

/-- **The index of the join with a signature.** If there is none, `build` makes it for the next
free index, and it takes the signature whatever `build` wrote there. -/
def allocate (t : JoinTable) (signature : String) (build : Nat → Join) : Nat × JoinTable :=
  match t.index? signature with
  | some index => (index, t)
  | none =>
    let index := t.joins.length
    (index, ⟨t.joins ++ [{ build index with signature }]⟩)

end JoinTable

end RunFilter
