import RunFilter.Proofs.Joins.Sharing
import RunFilter.Proofs.Leaves
import RunFilter.Proofs.Rekeying

/-!
# What becomes of the context of a metric

The context of a metric is written as texts under keys, and each of them asks that the document of
the context has the text at the key. The keys are brought into their canonical form first, and a
join keeps the context in this form; the tests are made from there, beside the leaf of the metric or
at the top of the statement.

**The law** (`contextTests_kept_iff`): in every resolved filter, wherever a metric is named with a
context, the test for a written text is kept, at the leaf or at the top, exactly if the text is that
of the greatest of the keys with one canonical form. So all tests are kept exactly if keys with one
canonical form have one text.

`lossOnBoth` has two texts for one key in two forms, and asks for one of them only.
-/

set_option autoImplicit false

namespace RunFilter

/-! ## Paths into documents -/

theorem Text.split_eq_cons (separator : Char) (cs : List Char) :
    ∃ part parts, split separator cs = part :: parts := by
  cases cs with
  | nil => exact ⟨[], [], rfl⟩
  | cons c cs =>
    rw [split]
    split
    · exact ⟨[], _, rfl⟩
    · split <;> exact ⟨_, _, rfl⟩

/-- The parts of a text tell the text. -/
theorem Text.intercalate_split (separator : Char) (cs : List Char) :
    [separator].intercalate (split separator cs) = cs := by
  induction cs with
  | nil => rfl
  | cons c cs ih =>
    obtain ⟨part, parts, eq⟩ := split_eq_cons separator cs
    rw [eq] at ih
    rw [split, eq]
    split
    next same => rw [List.intercalate_cons_cons, ih, same, List.nil_append, List.singleton_append]
    next other =>
      cases parts with
      | nil => exact congrArg (c :: ·) ih
      | cons next parts =>
        rw [List.intercalate_cons_cons] at ih
        dsimp only
        rw [List.intercalate_cons_cons, List.cons_append, List.cons_append, ih]

/-- A path into a document tells its key. -/
theorem documentPath_inj {key key' : String} (h : documentPath key = documentPath key') :
    key = key' := by
  have parts : Text.split '.' key.toList = Text.split '.' key'.toList :=
    List.map_injective_iff.mpr (fun _ _ => String.ofList_inj.mp) h
  have chars := congrArg ['.'].intercalate parts
  rw [Text.intercalate_split, Text.intercalate_split] at chars
  exact String.toList_inj.mp chars

/-! ## Tests of contexts -/

namespace Join

variable {j j' : Join} {key value : String}

/-- **The test for a text under a key as it is written**, in the context of a join. -/
def contextTest (j : Join) (key value : String) : Predicate :=
  .test (.document j.aliasName contextColumn (documentPath (canonicalKey key)))
    (.compare .equal (.text value))

/-- A test tells the join whose context it is about. -/
theorem aliasName_of_mem_contextTests (mem : j.contextTest key value ∈ j'.contextTests) :
    j'.aliasName = j.aliasName := by
  obtain ⟨e, _, same⟩ := List.mem_map.mp mem
  injection same with column
  injection column

theorem contextTest_mem_iff : j.contextTest key value ∈ j.contextTests ↔
    (canonicalKey key, value) ∈ j.context.entries := by
  rw [contextTests, List.mem_map]
  constructor
  · rintro ⟨⟨stored, text⟩, mem, same⟩
    injection same with column asked
    injection column with _ _ path
    injection asked with _ value
    injection value with value
    rwa [← documentPath_inj path, ← value]
  · exact fun mem => ⟨_, mem, rfl⟩

end Join

/-! ## Places where metrics are named -/

/-- **A metric named with a context**, as it is written. -/
structure AttributePath.IsSeries (p : AttributePath) (name : String) (context : Dictionary) :
    Prop where
  entity : p.entity = "run"
  field : p.field = "metrics"
  subscript : p.subscript = some ⟨name, some context⟩

/-- What a metric with a context asks of its join. -/
theorem AttributePath.IsSeries.demand? {p : AttributePath} {name : String} {context : Dictionary}
    (h : p.IsSeries name context) :
    p.demand? = some (.sampled name (context.mapKeys canonicalKey)) := by
  simp [AttributePath.demand?, h.entity, h.field, h.subscript]

/-- A context that is not empty has a key in canonical form. -/
theorem Dictionary.isEmpty_mapKeys {d : Dictionary} {e : String × String} (mem : e ∈ d.entries)
    (f : String → String) : (d.mapKeys f).isEmpty = false := by
  obtain ⟨text, prevails⟩ := exists_prevails f mem
  rw [isEmpty, List.isEmpty_eq_false_iff]
  exact List.ne_nil_of_mem (mem_mapKeys_iff.mpr prevails)

namespace Filter

/-- Whether a filter is no leaf. -/
def isConnective : Filter → Bool
  | .boolean .. => true
  | _ => false

/-- **A leaf at a place names an attribute.** -/
def NamesAt (f : Filter) (place : List Nat) (p : AttributePath) : Prop :=
  ∃ g, f.at? place = some g ∧ g.isConnective = false ∧ p ∈ g.paths

variable {tables : Dictionary} {f g : Filter} {p : AttributePath} {d : Condition}
  {ref : Reference}

mutual
/-- **An attribute is named at a place.** -/
theorem exists_namesAt : ∀ {f : Filter}, p ∈ f.paths → ∃ place, f.NamesAt place p
  | .boolean _ fs, mem => by
    obtain ⟨position, g, place, operand, named⟩ := exists_namesAt_of_pathsAll mem
    exact ⟨position :: place, by rwa [NamesAt, at?, operands, operand, Option.bind_some]⟩
  | .attribute path, mem => ⟨[], _, rfl, rfl, mem⟩
  | .comparison .., mem => ⟨[], _, rfl, rfl, mem⟩
  | .call .., mem => ⟨[], _, rfl, rfl, mem⟩
theorem exists_namesAt_of_pathsAll : ∀ {fs : List Filter}, p ∈ pathsAll fs →
    ∃ (position : Nat) (g : Filter) (place : List Nat),
      fs[position]? = some g ∧ g.NamesAt place p
  | f :: fs, mem => by
    rcases List.mem_append.mp mem with mem | mem
    · obtain ⟨place, named⟩ := exists_namesAt mem
      exact ⟨0, f, place, rfl, named⟩
    · obtain ⟨position, g, place, operand, named⟩ := exists_namesAt_of_pathsAll mem
      exact ⟨position + 1, g, place, operand, named⟩
end

/-- A part of a filter names attributes of the filter. -/
theorem paths_subset_of_at? {place : List Nat} (written : f.at? place = some g) :
    g.paths ⊆ f.paths := by
  induction place generalizing f with
  | nil =>
    cases written
    exact List.Subset.refl _
  | cons position place ih =>
    obtain ⟨f', operand, written⟩ := Option.bind_eq_some_iff.mp written
    refine List.Subset.trans (ih written) ?_
    unfold operands at operand
    split at operand
    · exact paths_subset_pathsAll (List.mem_of_getElem? operand)
    · cases operand

/-- **A leaf that passes the check** tests an attribute. -/
theorem exists_leafAt (checked : g.condition tables = .ok d) (leaf : g.isConnective = false) :
    ∃ ref, Condition.LeafAt ref d := by
  match g, leaf with
  | .comparison _ _ _ _, _ =>
    obtain ⟨_, _, h⟩ := bind_eq_ok.mp checked
    obtain ⟨_, _, h⟩ := bind_eq_ok.mp h
    obtain ⟨ref, leaf, _⟩ := Condition.leafAt_ofComparison (mapError_eq_ok.mp h)
    exact ⟨ref, leaf⟩
  | .call _ _ _, _ =>
    obtain ⟨ref, leaf, _⟩ := leafAt_callCondition checked
    exact ⟨ref, leaf⟩
  | .attribute p, _ =>
    obtain ⟨_, _, tests⟩ := (within_attributeCondition p).of_ok checked
    obtain ⟨ref, _, leaf⟩ := Condition.leafAt_of_tests tests
    exact ⟨ref, leaf⟩
  | .literal _, _ | .list _, _ => cases checked

/-- The attribute that a leaf names is the one that it tests. -/
theorem reference?_of_leafAt (checked : g.condition tables = .ok d)
    (leaf : Condition.LeafAt ref d) (mem : p ∈ g.paths) : p.reference? tables = some ref := by
  have named := List.mem_map_of_mem (f := (·.reference? tables)) mem
  rw [references_condition checked, leaf.references] at named
  exact List.mem_singleton.mp named

end Filter

namespace Condition

variable {ref : Reference} {d : Condition}

theorem LeafAt.conjuncts (h : LeafAt ref d) : d.conjuncts = [ref] := by
  cases h <;> rfl

/-- **A leaf with a context** is read off bare, or behind the tests of the context. -/
theorem LeafAt.readOff_eq (h : LeafAt ref d) (t : JoinTable) (asked : ref.origin.context?.isSome) :
    ∃ leaf, (∀ ps, leaf ≠ .all ps) ∧
      d.readOff t true = leaf ∧ d.readOff t false = .all (t.ownTests ref.origin ++ [leaf]) := by
  have guarded : ∀ leaf, t.guarded ref.origin leaf = .all (t.ownTests ref.origin ++ [leaf]) :=
    fun _ => if_pos asked
  cases h with
  | test part asked =>
    exact ⟨.test (part.columnIn (t.tableOf ref.origin)) asked, nofun, rfl, guarded _⟩
  | decided holds => exact ⟨.constant holds, nofun, rfl, guarded _⟩

end Condition

/-! ## The law -/

namespace Resolution

/-- **A test is kept** for a leaf: it stands at the top or is tied to the leaf. -/
def Keeps (r : Resolution) (place : List Nat) (test : Predicate) : Prop :=
  test ∈ r.contextFilters ∨ ∃ tests leaf,
    r.predicate.bind (·.at? place) = some (.all (tests ++ [leaf])) ∧ test ∈ tests

/-- **No test of a written context is dropped.** -/
def KeepsContexts (r : Resolution) (tables : Dictionary) (f : Filter) : Prop :=
  ∀ place p name context, f.NamesAt place p → p.IsSeries name context → ∀ e ∈ context.entries,
    ∃ j, r.contextJoinOf? tables p = some j ∧ r.Keeps place (j.contextTest e.1 e.2)

variable {tables : Dictionary} {f : Filter} {r : Resolution} {p : AttributePath}

theorem faithful_ofCondition (c : Condition) :
    (⟨(ofCondition c).joins⟩ : JoinTable).Faithful := by
  rw [joins_ofCondition]
  exact JoinTable.faithful_empty.planAll c.references

/-- **A test at the top is one of its join**: it has the name of the join, and no other join has
that name. -/
theorem mem_contextTests_of_top {c : Condition} {j : Join} (mem : j ∈ (ofCondition c).joins)
    {key value : String} (top : j.contextTest key value ∈ (ofCondition c).contextFilters) :
    j.contextTest key value ∈ j.contextTests := by
  have planned := plannedFor_ofCondition c
  obtain ⟨ref, conjunct, own⟩ :=
    List.mem_flatMap.mp ((Condition.mem_contextFilters_resolve c _).mp top)
  change _ ∈ (⟨(ofCondition c).joins⟩ : JoinTable).ownTests ref.origin at own
  obtain ⟨index, k, selected, found⟩ :=
    (planned.holds ref (Condition.conjuncts_subset c conjunct)).stored_of_mem_ownTests own
  rw [JoinTable.ownTests_of_stored (faithful_ofCondition c) selected found] at own
  have same : k = j := List.inj_on_of_nodup_map planned.nodup (List.mem_of_getElem? found) mem
    (Join.aliasName_of_mem_contextTests own)
  rwa [same] at own

/-- **A test of a context is kept exactly if the join of the context has it.** -/
theorem keeps_contextTest_iff (accepted : ofFilter tables (some f) = .ok r) {place : List Nat}
    (named : f.NamesAt place p) {name : String} {context : Dictionary}
    (asked : p.demand? = some (.sampled name context)) (filled : context.isEmpty = false) :
    ∃ m j, r.joinOf? tables p = some m ∧ r.contextJoinOf? tables p = some j ∧
      j.Selects m.aliasName context ∧ ∀ key value,
        (r.Keeps place (j.contextTest key value) ↔ (canonicalKey key, value) ∈ context.entries) := by
  obtain ⟨g, written, leaf, mem⟩ := named
  obtain ⟨d, bare, checked', stored, above⟩ := exists_at?_of_ofFilter accepted written
  obtain ⟨c, checked, rfl⟩ := ofFilter_eq_ok.mp accepted
  obtain ⟨ref, leafAt⟩ := Filter.exists_leafAt checked' leaf
  have reference := Filter.reference?_of_leafAt checked' leafAt mem
  obtain ⟨_, memRef, reference', asked', m, _, joined, aliasName, _⟩ :=
    exists_joinOf? checked (Filter.paths_subset_of_at? written mem) asked
  obtain rfl := Option.some.inj (reference.symm.trans reference')
  obtain ⟨index, j, selected, found, selects⟩ :=
    (plannedFor_ofCondition c).selected memRef asked' filled
  have tests := JoinTable.ownTests_of_stored (faithful_ofCondition c) selected found
  have wanted : ref.origin.context?.isSome := by
    obtain ⟨_, context, _⟩ := Option.bind_eq_some_iff.mp selected
    rw [context]
    rfl
  obtain ⟨leaf, plain, alone, tied⟩ :=
    leafAt.readOff_eq (⟨(ofCondition c).joins⟩ : JoinTable) wanted
  refine ⟨m, j, joined, ?_, aliasName ▸ selects, fun key value => ?_⟩
  · rw [contextJoinOf?, reference, Option.bind_some, selected, Option.bind_some, found]
  rw [← selects.context, ← Join.contextTest_mem_iff]
  cases bare with
  | true =>
    rw [alone] at stored
    constructor
    · rintro (top | ⟨more, behind, all, _⟩)
      · exact mem_contextTests_of_top (List.mem_of_getElem? found) top
      · exact absurd (Option.some.inj (stored.symm.trans all)) (plain _)
    · exact fun mem => .inl (above rfl ref (by simp [leafAt.conjuncts]) (tests ▸ mem))
  | false =>
    rw [tied] at stored
    constructor
    · rintro (top | ⟨more, behind, all, mem⟩)
      · exact mem_contextTests_of_top (List.mem_of_getElem? found) top
      · injection Option.some.inj (stored.symm.trans all) with parts
        rwa [← (List.append_inj' parts rfl).1, tests] at mem
    · exact fun mem => .inr ⟨_, leaf, stored, tests ▸ mem⟩

/-- **A test of a written context is kept exactly if its text prevails** among those of the keys
with one canonical form. So no test is dropped if and only if the keys of a context that have one
canonical form have one text. Every attribute that a filter names is named at a place. -/
theorem contextTests_kept_iff (tables : Dictionary) (f : Filter) (r : Resolution)
    (accepted : ofFilter tables (some f) = .ok r) :
    (∀ p ∈ f.paths, ∃ place, f.NamesAt place p) ∧
      (∀ place p name context, f.NamesAt place p → p.IsSeries name context →
        ∀ e ∈ context.entries, ∃ m j, r.joinOf? tables p = some m ∧
          r.contextJoinOf? tables p = some j ∧
          j.Selects m.aliasName (context.mapKeys canonicalKey) ∧
          (r.Keeps place (j.contextTest e.1 e.2) ↔ context.Prevails canonicalKey e.1 e.2)) ∧
      (r.KeepsContexts tables f ↔
        ∀ p ∈ f.paths, ∀ name context, p.IsSeries name context →
          context.Merges canonicalKey) := by
  have kept : ∀ place p name context, f.NamesAt place p → p.IsSeries name context →
      ∀ e ∈ context.entries, ∃ m j, r.joinOf? tables p = some m ∧
        r.contextJoinOf? tables p = some j ∧
        j.Selects m.aliasName (context.mapKeys canonicalKey) ∧
        (r.Keeps place (j.contextTest e.1 e.2) ↔ context.Prevails canonicalKey e.1 e.2) := by
    intro place p name context named series e mem
    obtain ⟨m, j, joined, selecting, selects, keeps⟩ := keeps_contextTest_iff accepted named
      series.demand? (Dictionary.isEmpty_mapKeys mem canonicalKey)
    exact ⟨m, j, joined, selecting, selects, (keeps e.1 e.2).trans Dictionary.mem_mapKeys_iff⟩
  refine ⟨fun p mem => Filter.exists_namesAt mem, kept, ?_, ?_⟩
  · intro all p mem name context series
    obtain ⟨place, named⟩ := Filter.exists_namesAt mem
    refine Dictionary.forall_prevails_iff.mp fun e entry => ?_
    obtain ⟨_, j, _, selecting, _, keeps⟩ := kept place p name context named series e entry
    obtain ⟨j', selecting', held⟩ := all place p name context named series e entry
    obtain rfl := Option.some.inj (selecting.symm.trans selecting')
    exact keeps.mp held
  · intro merges place p name context named series e entry
    obtain ⟨g, written, _, mem⟩ := named
    obtain ⟨_, j, _, selecting, _, keeps⟩ := kept place p name context ⟨g, written, ‹_›, mem⟩
      series e entry
    have merged := merges p (Filter.paths_subset_of_at? written mem) name context series
    exact ⟨j, selecting, keeps.mpr (Dictionary.forall_prevails_iff.mpr merged e entry)⟩

/-- The test of `lossOnSubset` is kept at both places where the metric is named: at the top, and
tied inside of the `or`. -/
theorem contextTests_kept_lossOnSubset :
    ∃ r, ofFilter Settings.standardTables (some lossOnSubset) = .ok r ∧
      r.contextFilters = [.test (.document "contexts_1" "json" ["subset"])
        (.compare .equal (.text "val"))] ∧
      r.KeepsContexts Settings.standardTables lossOnSubset := by
  refine ⟨_, rfl, rfl, ?_⟩
  obtain ⟨_, _, kept⟩ := contextTests_kept_iff Settings.standardTables lossOnSubset _ rfl
  refine kept.mpr fun p mem name context series => ?_
  obtain rfl : context = .ofList [("subset", "val")] := by
    have subscript := series.subscript
    rcases mem with _ | ⟨_, _ | ⟨_, _ | ⟨_, ⟨⟩⟩⟩⟩
    · cases subscript
      rfl
    · cases subscript
      rfl
    · cases subscript
  intro e entry e' entry' _
  rw [List.mem_singleton.mp entry, List.mem_singleton.mp entry']

/-- Two texts under one key in two forms. -/
def bothSubsets : Dictionary := .ofList [("subset", "val"), ("$.subset", "train")]

/-- The loss in the context of `bothSubsets`. -/
def lossOfBoth : AttributePath :=
  ⟨"run", "metrics", some ⟨"loss", some bothSubsets⟩, some "last", 0⟩

/-- A small loss in the context of `bothSubsets`. -/
def lossOnBoth : Filter := .comparison (.attribute lossOfBoth) .less (.literal (.int 1)) 0

/-- **One of the two texts of `lossOnBoth` is not asked for.** The filter passes runs whose loss on
the other subset is small. -/
theorem text_dropped :
    ∃ r, ofFilter Settings.standardTables (some lossOnBoth) = .ok r ∧
      r.contextFilters = [.test (.document "contexts_1" "json" ["subset"])
        (.compare .equal (.text "val"))] ∧
      r.predicate = some (.test (.field "metrics_0" "value") (.compare .less (.int 1))) ∧
      ¬ r.KeepsContexts Settings.standardTables lossOnBoth := by
  refine ⟨_, rfl, rfl, rfl, fun all => ?_⟩
  have series : lossOfBoth.IsSeries "loss" bothSubsets := ⟨rfl, rfl, rfl⟩
  have named : lossOnBoth.NamesAt [] lossOfBoth := ⟨_, rfl, rfl, List.mem_cons_self⟩
  obtain ⟨j, selecting, held⟩ := all [] _ _ _ named series ("$.subset", "train") (by decide)
  obtain ⟨_, j', _, selecting', _, keeps⟩ :=
    @keeps_contextTest_iff Settings.standardTables _ _ _ rfl [] named _ _ series.demand? (by decide)
  obtain rfl := Option.some.inj (selecting.symm.trans selecting')
  exact absurd ((keeps _ _).mp held) (by decide)

end Resolution

end RunFilter
