import RunFilter.Condition
import RunFilter.Join
import RunFilter.Json

/-!
# Resolution

A checked filter is turned into a predicate on columns by planning its joins: attributes with the
same key share a join. A metric with a context needs tests of the context document beside the join.
Where every connective around the leaf is `and`, they move to the top of the statement; elsewhere
they stand in a conjunction with the leaf itself, so that `or` and `not` reach them together.
-/

set_option autoImplicit false

namespace RunFilter

/-- The joins planned so far, and those whose context tests stand at the top. -/
structure Plan where
  joins : JoinTable
  /-- Indices of joins. -/
  hoisted : List Nat
  deriving Repr

/-- Where an attribute was found: its table, and the join that selects its context. -/
structure Placement where
  table : String
  context : Option Nat
  deriving Repr

namespace Join

/-- The condition that ties a keyed table to the runs. -/
def keyCondition (runs aliasName : String) : String :=
  runs ++ ".run_uuid = " ++ aliasName ++ ".run_uuid AND " ++ aliasName ++ ".key = ?"

/-- The name of a join: its kind and its index. -/
def aliasOf (kind : String) (index : Nat) : String := kind ++ "_" ++ toString index

/-- A join that selects by a key. -/
def ofKey (kind table runs key : String) (index : Nat) : Join :=
  { signature := ""
    table
    aliasName := aliasOf kind index
    condition := keyCondition runs (aliasOf kind index)
    params := [.text key]
    context := .empty }

/-- A join of the context documents to the metric joined as `metric`. -/
def ofContext (metric : String) (context : Dictionary) (index : Nat) : Join :=
  let aliasName := aliasOf "contexts" index
  { signature := ""
    table := contextsTable
    aliasName
    condition := metric ++ ".context_id = " ++ aliasName ++ ".id"
    params := []
    context }

/-- **The tests that select the context of a join**, one for each key. -/
def contextTests (j : Join) : List Predicate :=
  j.context.entries.map fun (key, value) =>
    .test (.document j.aliasName contextColumn (documentPath key)) (.compare .equal (.text value))

end Join

namespace Origin

/-- **The signature of a keyed join.** -/
def keyedSignature (store : KeyStore) (key : String) : String := store.table ++ ":" ++ key

/-- **The signature of a metric join**: the name, and the context as a JSON document. -/
def seriesSignature (name : String) (context : Dictionary) : String :=
  if context.isEmpty then "metrics:" ++ name
  else "metrics:" ++ name ++ ":" ++ (Json.ofDictionary context).compact

end Origin

namespace Plan

/-- Nothing planned. -/
def empty : Plan := ⟨.empty, []⟩

/-- The name of the join at an index. -/
def aliasAt (plan : Plan) (index : Nat) : String :=
  match plan.joins.get? index with
  | some join => join.aliasName
  | none => ""

/-- The context tests of the join at an index. -/
def contextTestsAt (plan : Plan) (index : Nat) : List Predicate :=
  match plan.joins.get? index with
  | some join => join.contextTests
  | none => []

/-- The index of a join, planned if it is not there. -/
def join (plan : Plan) (signature : String) (build : Nat → Join) : Nat × Plan :=
  let (index, joins) := plan.joins.allocate signature build
  (index, { plan with joins })

/-- **The table of an attribute**, with the joins it needs. -/
def place (plan : Plan) : Origin → Placement × Plan
  | .table name => (⟨name, none⟩, plan)
  | .keyed runs store key =>
    let (index, plan) := plan.join (Origin.keyedSignature store key)
      (Join.ofKey store.table store.table runs key)
    (⟨plan.aliasAt index, none⟩, plan)
  | .series runs name context =>
    let signature := Origin.seriesSignature name context
    let (index, plan) := plan.join signature (Join.ofKey "metrics" latestMetricsTable runs name)
    let aliasName := plan.aliasAt index
    if context.isEmpty then (⟨aliasName, none⟩, plan)
    else
      let (selected, plan) := plan.join ("contexts:" ++ signature) (Join.ofContext aliasName context)
      (⟨aliasName, some selected⟩, plan)

/-- **A leaf with the context tests of its attribute.** Under `and` alone they go to the top;
otherwise they are tied to the leaf. -/
def tie (plan : Plan) (conjunctive : Bool) (placement : Placement) (leaf : Predicate) :
    Predicate × Plan :=
  match placement.context with
  | none => (leaf, plan)
  | some index =>
    if conjunctive then (leaf, { plan with hoisted := index :: plan.hoisted })
    else (.all (plan.contextTestsAt index ++ [leaf]), plan)

/-- **The context tests at the top**: those of each hoisted join once, in the order of the
joins. -/
def contextFilters (plan : Plan) : List Predicate :=
  plan.joins.joins.zipIdx.flatMap fun (join, index) =>
    if plan.hoisted.contains index then join.contextTests else []

end Plan

/-- The column of a part in a table. -/
def Part.columnIn (table : String) : Part → Column
  | .column name => .field table name
  | .duration => .expression ("(" ++ table ++ ".end_time - " ++ table ++ ".start_time) / 1000")
  | .document path => .document table contextColumn path

namespace Condition

mutual
/-- **The predicate of a condition** and the plan with its joins; `conjunctive` says that every
connective around the condition is `and`. -/
def resolve (conjunctive : Bool) (plan : Plan) : Condition → Predicate × Plan
  | .test ref part asked =>
    let (placement, plan) := plan.place ref.origin
    plan.tie conjunctive placement (.test (part.columnIn placement.table) asked)
  | .decided ref holds =>
    let (placement, plan) := plan.place ref.origin
    plan.tie conjunctive placement (.constant holds)
  | .all parts =>
    let (parts, plan) := resolveAll conjunctive plan parts
    (.all parts, plan)
  | .any parts =>
    let (parts, plan) := resolveAll false plan parts
    (.any parts, plan)
  | .negation part =>
    let (part, plan) := resolve false plan part
    (.negation part, plan)
/-- The predicates of conditions from left to right. -/
def resolveAll (conjunctive : Bool) (plan : Plan) : List Condition → List Predicate × Plan
  | [] => ([], plan)
  | c :: cs =>
    let (first, plan) := resolve conjunctive plan c
    let (rest, plan) := resolveAll conjunctive plan cs
    (first :: rest, plan)
end

mutual
/-- **Whether a metric is named** anywhere in a condition. -/
def namesMetric : Condition → Bool
  | .test ref _ _ | .decided ref _ => ref.isMetric
  | .all parts | .any parts => anyNamesMetric parts
  | .negation part => part.namesMetric
/-- Whether one of the conditions names a metric. -/
def anyNamesMetric : List Condition → Bool
  | [] => false
  | c :: cs => c.namesMetric || anyNamesMetric cs
end

end Condition

/-- A filter with its attributes resolved. -/
structure Resolution where
  /-- What the filter asks; nothing if it lets everything pass. -/
  predicate : Option Predicate
  /-- Context tests that hold for the whole filter. -/
  contextFilters : List Predicate
  joins : List Join
  referencesMetric : Bool
  deriving Repr

namespace Resolution

/-- The resolution of a checked filter. -/
def ofCondition (c : Condition) : Resolution :=
  let (predicate, plan) := c.resolve true .empty
  { predicate := some predicate
    contextFilters := plan.contextFilters
    joins := plan.joins.joins
    referencesMetric := c.namesMetric }

/-- **The resolution of a filter** for the table names of the settings, or the first mistake in
it. -/
def ofFilter (tables : Dictionary) : Option Filter → Except SyntaxError Resolution
  | none => .ok { predicate := none, contextFilters := [], joins := [], referencesMetric := false }
  | some filter => (filter.condition tables).map ofCondition

end Resolution

end RunFilter
