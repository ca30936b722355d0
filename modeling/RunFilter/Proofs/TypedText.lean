import RunFilter.Proofs.Joins.Lockstep
import RunFilter.Proofs.Sql.Placeholders
import RunFilter.Proofs.Sql.Shape

/-!
# Typed text is bound

Texts, numbers, keys and names that a user types reach a statement as bound values only.

**The law** (`typed_text_is_bound`): take two filters of one form, which differ in what was typed and
agree in their nodes, in which attributes share a join, and in the sizes of contexts. They resolve
alike, and the statements made of them are the same to the letter, with as many values of the same
kinds. First steps are left out, since a comparison with one is decided when the filter is checked.

The two resolutions are followed in lockstep. The check gives conditions of one shape, their tables
of joins grow alike, and what a condition becomes over its finished table is decided by its shape and
by the spots where its attributes are found.
-/

set_option autoImplicit false

namespace RunFilter

/-! ## Filters of one form -/

/-- The signature of the join that an attribute asks for, if it asks for one. -/
def AttributePath.joinSignature? (p : AttributePath) : Option String :=
  p.demand?.map Demand.signature

/-- The number of keys of a context in their canonical form, if one is written. -/
def AttributePath.contextKeys? (p : AttributePath) : Option Nat :=
  (p.subscript.bind (·.context)).map fun context => (context.mapKeys canonicalKey).entries.length

/-- **Two filters of one form.** They have one shape; two attributes of one filter have equal join
signatures exactly if those at their places in the other filter have; and contexts at one place have
equally many keys. -/
structure Filter.SameForm (f g : Filter) : Prop where
  shape : f.shape = g.shape
  joins : ∀ p ∈ f.paths.zip g.paths, ∀ q ∈ f.paths.zip g.paths,
    (p.1.joinSignature? = q.1.joinSignature? ↔ p.2.joinSignature? = q.2.joinSignature?)
  contexts : ∀ p ∈ f.paths.zip g.paths, p.1.contextKeys? = p.2.contextKeys?

/-! ## From paths to references -/

namespace Condition

/-- Conditions of one shape have attributes of one shape at each place. -/
theorem forall₂_references {c c' : Condition} (same : c.shape = c'.shape) :
    List.Forall₂ (fun ref ref' => ref.shape = ref'.shape) c.references c'.references := by
  have refs : c.references.map Reference.shape = c'.references.map Reference.shape := by
    rw [← references_shape, ← references_shape, same]
  rw [← List.forall₂_eq_eq_eq, List.forall₂_map_left_iff, List.forall₂_map_right_iff] at refs
  exact refs

end Condition

namespace Filter

variable {tables : Dictionary} {f g : Filter} {c c' : Condition}

/-- Attributes at one place of two checked filters are written at one place. -/
theorem exists_paths (checked : f.condition tables = .ok c) (checked' : g.condition tables = .ok c')
    {ref ref' : Reference} (mem : (ref, ref') ∈ c.references.zip c'.references) :
    ∃ p ∈ f.paths.zip g.paths,
      p.1.reference? tables = some ref ∧ p.2.reference? tables = some ref' := by
  have mem : (some ref, some ref') ∈
      (c.references.map some).zip (c'.references.map some) := by
    rw [List.zip_map]
    exact List.mem_map_of_mem mem
  rw [← references_condition checked, ← references_condition checked', List.zip_map] at mem
  obtain ⟨p, mem, eq⟩ := List.mem_map.mp mem
  exact ⟨p, mem, congrArg Prod.fst eq, congrArg Prod.snd eq⟩

theorem joinSignature?_of_reference? {p : AttributePath} {ref : Reference}
    (named : p.reference? tables = some ref) : ref.origin.signature? = p.joinSignature? := by
  rw [Origin.signature?_eq, AttributePath.demand?_of_reference? named]
  rfl

theorem contextKeys?_of_demand? {p : AttributePath} {name : String} {context : Dictionary}
    (asked : p.demand? = some (.sampled name context)) :
    context.entries.length = p.contextKeys?.getD 0 := by
  have empty : (Dictionary.empty.mapKeys canonicalKey).entries.length = 0 := rfl
  unfold AttributePath.demand? at asked
  unfold AttributePath.contextKeys?
  split at asked
  · split at asked
    · obtain ⟨⟨_, context⟩, written, eq⟩ := Option.map_eq_some_iff.mp asked
      cases eq
      cases context <;> simp [written, empty]
    · split at asked
      · simp at asked
      · split at asked <;> simp at asked
  · cases asked

/-- The attributes of filters of one form share joins alike. -/
theorem SameForm.shareAlike (form : f.SameForm g) (checked : f.condition tables = .ok c)
    (checked' : g.condition tables = .ok c') : ShareAlike c.references c'.references := by
  intro (ref, ref') mem (more, more') mem'
  obtain ⟨p, memP, named, named'⟩ := exists_paths checked checked' mem
  obtain ⟨q, memQ, namedQ, namedQ'⟩ := exists_paths checked checked' mem'
  simp only [joinSignature?_of_reference? named, joinSignature?_of_reference? named',
    joinSignature?_of_reference? namedQ, joinSignature?_of_reference? namedQ']
  exact form.joins p memP q memQ

/-- **The attributes of filters of one form ask alike.** -/
theorem SameForm.asksLike (form : f.SameForm g) (checked : f.condition tables = .ok c)
    (checked' : g.condition tables = .ok c') (same : c.shape = c'.shape) :
    List.Forall₂ (fun ref ref' =>
      ref.origin.AsksLike (SameRequest c.references c'.references) ref'.origin)
      c.references c'.references := by
  obtain ⟨length, shapes⟩ := List.forall₂_iff_zip.mp (Condition.forall₂_references same)
  refine List.forall₂_iff_zip.mpr ⟨length, fun {ref ref'} mem => ?_⟩
  obtain ⟨p, memP, named, named'⟩ := exists_paths checked checked' mem
  refine Origin.asksLike_of_shape mem (congrArg Reference.origin (shapes mem)) ?_
  intro name context name' context' asked asked'
  rw [AttributePath.demand?_of_reference? named] at asked
  rw [AttributePath.demand?_of_reference? named'] at asked'
  rw [contextKeys?_of_demand? asked, contextKeys?_of_demand? asked', form.contexts p memP]

end Filter

/-! ## What is read at a spot -/

/-- The tests of a context with blank keys and values. -/
def blankTests (aliasName : String) (keys : Nat) : List Predicate :=
  List.replicate keys (.test (.document aliasName contextColumn []) (.compare .equal (.text "")))

theorem Dictionary.shape_tests (aliasName : String) (context : Dictionary) :
    (context.tests aliasName).map Predicate.shape =
      blankTests aliasName context.entries.length := by
  simp [tests, blankTests, Function.comp_def, Predicate.shape, Column.shape, Test.shape,
    Value.shape, List.map_const']

theorem Part.shape_columnIn (table : String) (part : Part) :
    (part.columnIn table).shape = (part.shape.columnIn table).shape := by
  cases part <;> rfl

/-- A leaf with the blank tests of the context at its spot. -/
def Spot.guarded (spot : Spot) (leaf : Predicate) : Predicate :=
  match spot.context with
  | none => leaf
  | some (_, aliasName, keys) => .all (blankTests aliasName keys ++ [leaf])

namespace JoinTable

variable (t : JoinTable) (origin : Origin)

theorem shape_guarded (leaf : Predicate) :
    (t.guarded origin leaf).shape = (t.spot origin).guarded leaf.shape := by
  unfold guarded ownTests spot Spot.guarded
  cases origin.context? with
  | none => rfl
  | some asked =>
    simp [Predicate.shape, Predicate.shapes_eq_map, Dictionary.shape_tests]

theorem contextIndex?_eq_spot : t.contextIndex? origin = (t.spot origin).context.bind (·.1) := by
  unfold contextIndex? spot
  cases origin.context? <;> rfl

end JoinTable

namespace Condition

variable {t u : JoinTable}

theorem length_references {c c' : Condition} (same : c.shape = c'.shape) :
    c.references.length = c'.references.length :=
  (forall₂_references same).length_eq

/-- Leaves of one shape at one spot, with or without the tests of their contexts. -/
theorem shape_bare {origin origin' : Origin} (spot : t.spot origin = u.spot origin')
    {leaf leaf' : Predicate} (same : leaf.shape = leaf'.shape) (bare : Bool) :
    (if bare then leaf else t.guarded origin leaf).shape =
      (if bare then leaf' else u.guarded origin' leaf').shape := by
  cases bare
  · simp [JoinTable.shape_guarded, spot, same]
  · exact same

mutual
/-- **Conditions of one shape are read off alike** if their attributes are found at the same
spots. -/
theorem shape_readOff : ∀ {c c' : Condition}, c.shape = c'.shape →
    t.spots c.references = u.spots c'.references →
    t.spots c.conjuncts = u.spots c'.conjuncts ∧
      ∀ bare, (c.readOff t bare).shape = (c'.readOff u bare).shape
  | .test ref part asked, c', same, spots => by
    cases c' <;> simp only [shape, reduceCtorEq] at same
    next ref' part' asked' =>
      injection same with _ parts tests
      have spot : t.spot ref.origin = u.spot ref'.origin := (List.cons.inj spots).1
      have table : t.tableOf ref.origin = u.tableOf ref'.origin := congrArg Spot.table spot
      refine ⟨spots, shape_bare spot ?_⟩
      simp only [Predicate.shape, table, part.shape_columnIn, part'.shape_columnIn, parts, tests]
  | .decided ref holds, c', same, spots => by
    cases c' <;> simp only [shape, reduceCtorEq] at same
    next ref' holds' =>
      injection same with _ holds
      exact ⟨spots, shape_bare (List.cons.inj spots).1 (congrArg Predicate.constant holds)⟩
  | .all parts, c', same, spots => by
    cases c' <;> simp only [shape, reduceCtorEq] at same
    injection same with same
    obtain ⟨conjuncts, readOff⟩ := shapes_readOffAll same spots
    exact ⟨conjuncts, fun bare => congrArg Predicate.all (readOff bare)⟩
  | .any parts, c', same, spots => by
    cases c' <;> simp only [shape, reduceCtorEq] at same
    injection same with same
    obtain ⟨_, readOff⟩ := shapes_readOffAll same spots
    exact ⟨rfl, fun bare => congrArg Predicate.any (readOff false)⟩
  | .negation part, c', same, spots => by
    cases c' <;> simp only [shape, reduceCtorEq] at same
    injection same with same
    obtain ⟨_, readOff⟩ := shape_readOff same spots
    exact ⟨rfl, fun bare => congrArg Predicate.negation (readOff false)⟩
theorem shapes_readOffAll : ∀ {cs cs' : List Condition}, shapes cs = shapes cs' →
    t.spots (referencesAll cs) = u.spots (referencesAll cs') →
    t.spots (conjunctsAll cs) = u.spots (conjunctsAll cs') ∧
      ∀ bare, Predicate.shapes (readOffAll t bare cs) = Predicate.shapes (readOffAll u bare cs')
  | [], [], _, _ => ⟨rfl, fun _ => rfl⟩
  | [], _ :: _, same, _ | _ :: _, [], same, _ => nomatch same
  | c :: cs, c' :: cs', same, spots => by
    obtain ⟨first, rest⟩ := List.cons.inj same
    -- Equally many attributes stand in the first conditions, so the spots split at one place.
    have length := length_references first
    simp only [JoinTable.spots, referencesAll, List.map_append] at spots
    obtain ⟨spots, spots'⟩ := List.append_inj spots (by simp [length])
    obtain ⟨conjuncts, readOff⟩ := shape_readOff first spots
    obtain ⟨conjuncts', readOff'⟩ := shapes_readOffAll rest spots'
    refine ⟨?_, fun bare => ?_⟩
    · simp only [JoinTable.spots] at conjuncts conjuncts'
      simp only [JoinTable.spots, conjunctsAll, List.map_append, conjuncts, conjuncts']
    · simp only [readOffAll, Predicate.shapes, readOff bare, readOff' bare]
end

end Condition

/-! ## The law -/

theorem Plan.shape_contextFilters (plan : Plan) :
    plan.contextFilters.map Predicate.shape =
      (plan.joins.joins.map fun j => (j.aliasName, j.context.entries.length)).zipIdx.flatMap
        fun entry =>
          if plan.hoisted.contains entry.2 then blankTests entry.1.1 entry.1.2 else [] := by
  rw [contextFilters, List.zipIdx_map, List.map_flatMap, List.flatMap_map]
  refine List.flatMap_congr fun entry _ => ?_
  simp only [Prod.map_fst, Prod.map_snd, id_eq]
  split
  · exact Dictionary.shape_tests _ _
  · rfl

/-- Contexts are hoisted at the spots of the attributes under `and` alone. -/
theorem Condition.mem_hoisted_spots (c : Condition) (index : Nat) :
    index ∈ (c.resolve true .empty).2.hoisted ↔
      ∃ spot ∈ (c.resolve true .empty).2.joins.spots c.conjuncts,
        spot.context.bind (·.1) = some index := by
  rw [mem_hoisted_resolve c true .empty JoinTable.faithful_empty _ (JoinTable.le_refl _)]
  simp [Plan.empty, JoinTable.spots, JoinTable.contextIndex?_eq_spot]

namespace Resolution

/-- **Two resolutions become the same text**: their joins have one outline each, and their tests
one shape each. -/
structure SameText (r r' : Resolution) : Prop where
  joins : List.Forall₂ Join.SameOutline r.joins r'.joins
  contextFilters : r.contextFilters.map Predicate.shape = r'.contextFilters.map Predicate.shape
  predicate : r.predicate.map Predicate.shape = r'.predicate.map Predicate.shape

variable {tables : Dictionary} {f g : Filter} {c c' : Condition}

/-- **Filters of one form become the same text.** Their attributes ask for joins alike, so their
tables are in lockstep and their attributes are found at the same spots; the rest is read off
them. -/
theorem sameText_of_sameForm (form : f.SameForm g) (checked : f.condition tables = .ok c)
    (checked' : g.condition tables = .ok c') (same : c.shape = c'.shape) :
    (ofCondition c).SameText (ofCondition c') := by
  have unique := biUnique_sameRequest (form.shareAlike checked checked')
  have alike := form.asksLike checked checked' same
  have lockstep := JoinTable.Lockstep.empty.planAll unique alike
  rw [← joins_ofCondition, ← joins_ofCondition] at lockstep
  obtain ⟨conjuncts, readOff⟩ := Condition.shape_readOff same (lockstep.spots_eq unique alike)
  refine ⟨lockstep.sameOutline, ?_, ?_⟩
  · have joins : ((c.resolve true .empty).2.joins.joins.map fun j =>
          (j.aliasName, j.context.entries.length)) =
        (c'.resolve true .empty).2.joins.joins.map fun j =>
          (j.aliasName, j.context.entries.length) :=
      Join.map_eq_of_sameOutline lockstep.sameOutline fun _ _ same =>
        Prod.ext same.aliasName same.size
    have hoisted : ∀ index, (c.resolve true .empty).2.hoisted.contains index =
        (c'.resolve true .empty).2.hoisted.contains index := by
      intro index
      rw [Bool.eq_iff_iff, List.contains_iff_mem, List.contains_iff_mem,
        Condition.mem_hoisted_spots, Condition.mem_hoisted_spots]
      exact conjuncts ▸ Iff.rfl
    change (c.resolve true .empty).2.contextFilters.map Predicate.shape =
      (c'.resolve true .empty).2.contextFilters.map Predicate.shape
    rw [Plan.shape_contextFilters, Plan.shape_contextFilters, joins]
    simp only [hoisted]
  · rw [predicate_ofCondition, predicate_ofCondition, Option.map_some, Option.map_some, readOff]

end Resolution

namespace Compiler

open Resolution (ofFilter)

/-- The conditions of resolutions that become the same text. -/
theorem shape_condition (c : Compiler) {r r' : Resolution} (h : r.SameText r') :
    (c.ofResolution r).condition.map Fragment.shape =
      (c.ofResolution r').condition.map Fragment.shape := by
  change (whereFragment _ _ _).map _ = (whereFragment _ _ _).map _
  rw [shape_whereFragment, h.contextFilters, h.predicate, ← shape_whereFragment]

theorem shape_params (c : Compiler) {r r' : Resolution} (h : r.SameText r') :
    (c.ofResolution r).params.map Value.shape = (c.ofResolution r').params.map Value.shape := by
  have joins : r.joins.map (fun j => j.params.map Value.shape) =
      r'.joins.map fun j => j.params.map Value.shape :=
    Join.map_eq_of_sameOutline h.joins fun _ _ same => same.params
  have values : ∀ condition : Option Fragment,
      (condition.toList.flatMap (·.params)).map Value.shape =
        (condition.map Fragment.shape).toList.flatMap (·.params) := by
    intro condition
    cases condition with
    | none => rfl
    | some fragment => simp [Fragment.shape]
  simp only [CompiledQuery.params, CompiledQuery.whereParams_eq, List.map_append, values,
    c.shape_condition h, List.map_flatMap]
  refine congrArg (· ++ _) ?_
  change r.joins.flatMap _ = r'.joins.flatMap _
  rw [List.flatMap_def, List.flatMap_def, joins]

/-- A statement with a query, in its shape. -/
theorem shape_filter (c : Compiler) {r r' : Resolution} (h : r.SameText r') (s : Select) :
    ((c.ofResolution r).filter s).shape = ((c.ofResolution r').filter s).shape := by
  have joins : r.joins.map (fun j => (⟨j.sql, j.params⟩ : Fragment).shape) =
      r'.joins.map fun j => (⟨j.sql, j.params⟩ : Fragment).shape :=
    Join.map_eq_of_sameOutline h.joins fun _ _ same => by
      simp [Fragment.shape, same.sql, same.params]
  have conditions : ∀ condition : Option Fragment, condition.toList.map Fragment.shape =
      (condition.map Fragment.shape).toList := fun _ => Option.toList_map.symm
  simp only [CompiledQuery.filter_eq, Select.shape, List.map_append, conditions,
    c.shape_condition h, List.map_map, Function.comp_def]
  change { s with joins := _ ++ r.joins.map _, conditions := _ } =
    ({ s with joins := _ ++ r'.joins.map _, conditions := _ } : Select)
  rw [joins]

/-- **Typed text is bound.** Of two filters of one form that compare no first step, one resolves if
the other does. Then their joins have the same tables, names and conditions, their conditions the
same text, and they bind equally many values, of the same kinds; and a statement becomes the same
text with the one as with the other. -/
theorem typed_text_is_bound (c : Compiler) (f g : Filter) (form : f.SameForm g)
    (free : ∀ leaf ∈ f.leaves, ¬ leaf.ComparesFirstStep) :
    ((∃ r, ofFilter c.settings.tables (some f) = .ok r) ↔
      ∃ r, ofFilter c.settings.tables (some g) = .ok r) ∧
    ∀ r r', ofFilter c.settings.tables (some f) = .ok r →
      ofFilter c.settings.tables (some g) = .ok r' →
      (r.joins.map fun j => (j.table, j.aliasName, j.condition)) =
          (r'.joins.map fun j => (j.table, j.aliasName, j.condition)) ∧
        r.joins.map Join.sql = r'.joins.map Join.sql ∧
        (c.ofResolution r).condition.map (·.sql) = (c.ofResolution r').condition.map (·.sql) ∧
        (c.ofResolution r).params.length = (c.ofResolution r').params.length ∧
        (c.ofResolution r).params.map Value.shape = (c.ofResolution r').params.map Value.shape ∧
        ∀ s : Select, ((c.ofResolution r).filter s).build.sql =
          ((c.ofResolution r').filter s).build.sql := by
  have checks := Filter.sameShape_of_shape form.shape free c.settings.tables
  refine ⟨?_, fun r r' accepted accepted' => ?_⟩
  · have resolved : Paired anyMistakes (fun _ _ => True)
        (ofFilter c.settings.tables (some f)) (ofFilter c.settings.tables (some g)) :=
      Paired.map checks fun _ => trivial
    exact resolved.exists_ok_iff
  · obtain ⟨d, checked, rfl⟩ := Resolution.ofFilter_eq_ok.mp accepted
    obtain ⟨d', checked', rfl⟩ := Resolution.ofFilter_eq_ok.mp accepted'
    rw [checked, checked'] at checks
    have same := Resolution.sameText_of_sameForm form checked checked' checks.of_ok
    have params := c.shape_params same
    have text : ∀ condition : Option Fragment,
        condition.map (·.sql) = (condition.map Fragment.shape).map (·.sql) := by
      intro condition
      rw [Option.map_map]
      rfl
    refine ⟨?_, ?_, ?_, ?_, params, fun s => ?_⟩
    · exact Join.map_eq_of_sameOutline same.joins fun _ _ same =>
        Prod.ext same.table (Prod.ext same.aliasName same.condition)
    · exact Join.map_eq_of_sameOutline same.joins fun _ _ same => same.sql
    · rw [text, c.shape_condition same, ← text]
    · simpa using congrArg List.length params
    · rw [← Select.sql_build_shape, c.shape_filter same, Select.sql_build_shape]

/-- A loss in a context, and an owner or a name, with texts and numbers of one's choice. -/
def probe (metric key value tag owner : String) (bound : Int) : Filter :=
  let loss : AttributePath :=
    { entity := "run"
      field := "metrics"
      subscript := some ⟨metric, some (.ofList [(key, value)])⟩
      member := some "last"
      offset := 0 }
  .both (.comparison (.attribute loss) .less (.literal (.int bound)) 0)
    (.boolean .or [
      .comparison (.attribute ⟨"run", "tags", some ⟨tag, none⟩, none, 0⟩) .equal
        (.literal (.text owner)) 0,
      .call .startsWith [.attribute ⟨"run", "name", none, none, 0⟩, .literal (.text owner)] 0])

/-- Statements of a harmless probe and of a hostile one are the same. -/
theorem typed_text_is_bound_probe :
    let c : Compiler := ⟨.standard, .postgres, none⟩
    let harmless := probe "loss" "subset" "val" "owner" "ada" 1
    let hostile := probe "' OR 1 = 1" "a.\"b" "?; DROP TABLE runs" "$1" "' OR '%' = '" 2
    harmless.SameForm hostile ∧ ∃ r r', ofFilter c.settings.tables (some harmless) = .ok r ∧
      ofFilter c.settings.tables (some hostile) = .ok r' ∧
      (c.ofResolution r).params ≠ (c.ofResolution r').params ∧
      (c.selectRuns (c.ofResolution r)).sql = (c.selectRuns (c.ofResolution r')).sql := by
  intro c harmless hostile
  have form : harmless.SameForm hostile := ⟨rfl, by decide +kernel, by decide +kernel⟩
  have free : ∀ leaf ∈ harmless.leaves, ¬ leaf.ComparesFirstStep := by decide
  obtain ⟨_, same⟩ := typed_text_is_bound c harmless hostile form free
  refine ⟨form, _, _, rfl, rfl, ?_, ?_⟩
  · decide +kernel
  · exact (same _ _ rfl rfl).2.2.2.2.2 _

end Compiler

end RunFilter
