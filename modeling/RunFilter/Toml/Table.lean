import RunFilter.Toml.Value

/-!
# Tables under construction

A document names its tables in any order, but defines each of them once. So a table under
construction remembers how it came about: on the way to another table, through a dotted key, or by
a header of its own. A header may define a table that was only passed through; a dotted key may go
on with tables of dotted keys; nothing is added to a value that is complete.
-/

set_option autoImplicit false

namespace RunFilter.Toml

/-- How a table came about. -/
inductive Provenance where
  /-- On the way to the table of a header. -/
  | passed
  /-- Through a dotted key. -/
  | dotted
  /-- By a header of its own. -/
  | header
  deriving DecidableEq, Repr

/-- What stands under a key while a document is read. -/
inductive Node where
  /-- A complete value. -/
  | value (v : Value)
  | table (provenance : Provenance) (entries : List (String × Node))
  /-- The tables of a list of tables; the last one is open. -/
  | tables (items : List (List (String × Node)))

/-- An open table. -/
structure Table where
  provenance : Provenance
  entries : List (String × Node)

namespace Table

/-- The table of a document before its first line. -/
def root : Table := ⟨.header, []⟩

/-- The entry under a key. -/
def find? (t : Table) (key : String) : Option Node := t.entries.lookup key

/-- The entries with what stands under a key replaced, or with a new entry behind the others. -/
def put (key : String) (node : Node) : List (String × Node) → List (String × Node)
  | [] => [(key, node)]
  | e :: es => if e.1 = key then (key, node) :: es else e :: put key node es

/-- The table with something under a key. -/
def set (t : Table) (key : String) (node : Node) : Table :=
  { t with entries := put key node t.entries }

/-- The last table of a list of tables changed. -/
def changeLast (change : Table → Option Table) :
    List (List (String × Node)) → Option (List (List (String × Node)))
  | [] => none
  | [last] => do
    let t ← change ⟨.header, last⟩
    some [t.entries]
  | first :: rest => do some (first :: (← changeLast change rest))

/-- **The table with a change made at the end of a path.** Tables that are missing on the way are
made; `dotted` says whether the path is a dotted key or the way of a header. -/
def change (dotted : Bool) (act : Table → Option Table) : List String → Table → Option Table
  | [], t => act t
  | key :: path, t =>
    match t.find? key with
    | none => do
      let child ← change dotted act path ⟨if dotted then .dotted else .passed, []⟩
      some (t.set key (.table child.provenance child.entries))
    | some (.value _) => none
    | some (.tables items) => do
      some (t.set key (.tables (← changeLast (change dotted act path) items)))
    | some (.table provenance entries) =>
      if dotted && provenance = .header then none
      else do
        let child ← change dotted act path ⟨provenance, entries⟩
        some (t.set key (.table child.provenance child.entries))

/-- A value under a new key of the table that a dotted key leads to. Only a table of dotted keys
can be reached by one. -/
def addValue (path : List String) (key : String) (v : Value) (t : Table) : Option Table :=
  change true (fun t =>
    if decide (t.provenance = .dotted) == path.isEmpty || (t.find? key).isSome then none
    else some (t.set key (.value v))) path t

/-- The table of a header, opened for the lines below it. -/
def openTable (path : List String) (key : String) (t : Table) : Option Table :=
  change false (fun t =>
    match t.find? key with
    | none => some (t.set key (.table .header []))
    | some (.table .passed entries) => some (t.set key (.table .header entries))
    | some _ => none) path t

/-- One more table in a list of tables, opened for the lines below its header. -/
def openItem (path : List String) (key : String) (t : Table) : Option Table :=
  change false (fun t =>
    match t.find? key with
    | none => some (t.set key (.tables [[]]))
    | some (.tables items) => some (t.set key (.tables (items ++ [[]])))
    | some _ => none) path t

end Table

mutual
/-- The value that a node has become. -/
def Node.close : Node → Value
  | .value v => v
  | .table _ entries => .table (closeEntries entries)
  | .tables items => .array (closeTables items)
/-- The entries of a table, closed. -/
def closeEntries : List (String × Node) → List (String × Value)
  | [] => []
  | (key, node) :: rest => (key, node.close) :: closeEntries rest
/-- The tables of a list, closed. -/
def closeTables : List (List (String × Node)) → List Value
  | [] => []
  | entries :: rest => .table (closeEntries entries) :: closeTables rest
end

end RunFilter.Toml
