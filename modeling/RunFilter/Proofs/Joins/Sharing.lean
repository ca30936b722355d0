import Mathlib.Data.List.Nodup
import RunFilter.Proofs.Compilation

/-!
# Which attributes share a join

Attributes share a join if they ask it for the same: a text of a store under one key, or the samples
of one metric in one context. The plan of a statement knows a join by its signature alone, and a
signature tells everything that an attribute asks for but one thing. A metric without a context may
be named like another metric with the document of a context behind it (`Demand.Mimics`); the two
have one signature.

**The law** (`sharing_by_demand`): two attributes of a resolved filter use one join exactly if they
ask for the same or one of them mimics the other. A join is bound to the key that was asked of it
first, and the join of a context stands on the join of its metric. So every join is bound to the
keys of all its attributes, and no two different demands share one, exactly if no attribute of the
filter mimics another.

`mimic_shares_join` is the case that the exception is about.
-/

set_option autoImplicit false

namespace RunFilter

/-- **What an attribute asks of a join.** -/
inductive Demand where
  /-- The text of a store under a key. -/
  | stored (store : KeyStore) (key : String)
  /-- The samples of a metric in a context, in all contexts if it is empty. -/
  | sampled (name : String) (context : Dictionary)
  deriving DecidableEq

namespace Demand

/-- The key that a join is bound to. -/
def key : Demand → String
  | .stored _ key => key
  | .sampled name _ => name

/-- The table that is joined. -/
def table : Demand → String
  | .stored store _ => store.table
  | .sampled _ _ => latestMetricsTable

/-- The signature of the join. -/
def signature : Demand → String
  | .stored store key => Origin.keyedSignature store key
  | .sampled name context => Origin.seriesSignature name context

/-- **A metric without a context is named like a metric with one**: the name of the other, a colon
and the document of the context. -/
def Mimics : Demand → Demand → Prop
  | .sampled name context, .sampled name' context' =>
    context.isEmpty = true ∧ context'.isEmpty = false ∧
      name = name' ++ ":" ++ (Json.ofDictionary context').compact
  | _, _ => False

/-- **Two demands that one join serves.** -/
def Shares (d e : Demand) : Prop := d = e ∨ d.Mimics e ∨ e.Mimics d

end Demand

/-- What an attribute asks of a join, if it needs one. -/
def Origin.demand? : Origin → Option Demand
  | .table _ => none
  | .keyed _ store key => some (.stored store key)
  | .series _ name context => some (.sampled name context)

/-- **What an attribute asks of a join, as it is written**: `run.metrics[name, context]`,
`run.tags` or `run.params` with a key. Contexts are taken with canonical keys. -/
def AttributePath.demand? (p : AttributePath) : Option Demand :=
  if p.entity = "run" then
    if p.field = "metrics" then
      p.subscript.map fun s => .sampled s.name ((s.context.getD .empty).mapKeys canonicalKey)
    else if p.field = "tags" then p.key.toOption.map (.stored .tags)
    else if p.field = "params" then p.key.toOption.map (.stored .params)
    else none
  else none

/-- What the attributes of a filter ask of joins, from left to right. -/
def Filter.demands (f : Filter) : List Demand := f.paths.filterMap (·.demand?)

/-! ## Signatures -/

theorem Dictionary.eq_of_isEmpty {c d : Dictionary} (hc : c.isEmpty = true)
    (hd : d.isEmpty = true) : c = d := by
  obtain ⟨entries, ascending⟩ := c
  obtain ⟨entries', ascending'⟩ := d
  simp only [isEmpty, List.isEmpty_iff] at hc hd
  subst hc hd
  rfl

theorem Origin.signature?_eq (origin : Origin) :
    origin.signature? = origin.demand?.map Demand.signature := by
  cases origin <;> rfl

namespace Demand

theorem keyedSignature_inj {store store' : KeyStore} {key key' : String}
    (h : Origin.keyedSignature store key = Origin.keyedSignature store' key') :
    store = store' ∧ key = key' := by
  have first := congrArg (fun s : String => s.toList.head?) h
  have same : store = store' := by
    cases store <;> cases store' <;> simp [Origin.keyedSignature, KeyStore.table] at first ⊢
  subst same
  exact ⟨rfl, (String.append_right_inj _).mp h⟩

theorem keyedSignature_ne_series (store : KeyStore) (key name : String) (context : Dictionary) :
    Origin.keyedSignature store key ≠ Origin.seriesSignature name context := by
  intro h
  have first := congrArg (fun s : String => s.toList.head?) h
  simp only [JoinTable.head?_seriesSignature] at first
  cases store <;> simp [Origin.keyedSignature, KeyStore.table] at first

/-- The signatures of two metrics with contexts tell both. -/
theorem seriesSignature_inj {name name' : String} {context context' : Dictionary}
    (filled : context.isEmpty = false) (filled' : context'.isEmpty = false)
    (h : Origin.seriesSignature name context = Origin.seriesSignature name' context') :
    name = name' ∧ context = context' :=
  JoinTable.contextSignature_inj filled filled' (congrArg ("contexts:" ++ ·) h)

theorem Mimics.signature_eq {d e : Demand} (h : d.Mimics e) : d.signature = e.signature := by
  cases d with
  | stored => exact h.elim
  | sampled name context =>
    cases e with
    | stored => exact h.elim
    | sampled name' context' =>
      obtain ⟨empty, filled, rfl⟩ := h
      simp [signature, Origin.seriesSignature, empty, filled, String.append_assoc]

theorem Mimics.ne {d e : Demand} (h : d.Mimics e) : d ≠ e := by
  rintro rfl
  cases d with
  | stored => exact h
  | sampled name context => exact Bool.false_ne_true (h.2.1.symm.trans h.1)

/-- **Signatures tell demands**, up to mimicry. -/
theorem signature_eq_iff {d e : Demand} : d.signature = e.signature ↔ d.Shares e := by
  constructor
  · intro h
    cases d with
    | stored store key =>
      cases e with
      | stored store' key' =>
        obtain ⟨rfl, rfl⟩ := keyedSignature_inj h
        exact .inl rfl
      | sampled name context => exact (keyedSignature_ne_series store key name context h).elim
    | sampled name context =>
      cases e with
      | stored store key => exact (keyedSignature_ne_series store key name context h.symm).elim
      | sampled name' context' =>
        change Origin.seriesSignature name context = Origin.seriesSignature name' context' at h
        cases empty : context.isEmpty <;> cases empty' : context'.isEmpty
        · obtain ⟨rfl, rfl⟩ := seriesSignature_inj empty empty' h
          exact .inl rfl
        · refine .inr (.inr ⟨empty', empty, ?_⟩)
          simpa [Origin.seriesSignature, empty, empty', String.append_assoc] using h.symm
        · refine .inr (.inl ⟨empty, empty', ?_⟩)
          simpa [Origin.seriesSignature, empty, empty', String.append_assoc] using h
        · obtain rfl := Dictionary.eq_of_isEmpty empty empty'
          have same : name = name' := by simpa [Origin.seriesSignature, empty] using h
          exact .inl (same ▸ rfl)
  · rintro (rfl | mimics | mimics)
    · rfl
    · exact mimics.signature_eq
    · exact mimics.signature_eq.symm

theorem Mimics.table_eq {d e : Demand} (h : d.Mimics e) : d.table = e.table := by
  cases d with
  | stored => exact h.elim
  | sampled name context =>
    cases e with
    | stored => exact h.elim
    | sampled name' context' => rfl

theorem Shares.table_eq {d e : Demand} (h : d.Shares e) : d.table = e.table := by
  rcases h with rfl | mimics | mimics
  · rfl
  · exact mimics.table_eq
  · exact mimics.table_eq.symm

/-- No context is selected by the join of a demand. -/
theorem signature_ne_context (d : Demand) (name : String) (context : Dictionary) :
    d.signature ≠ Origin.contextSignature name context := by
  cases d with
  | stored store key =>
    obtain ⟨c, head, ne⟩ := JoinTable.head?_keyedSignature store key
    exact JoinTable.contextSignature_ne head ne name context
  | sampled name' context' =>
    exact JoinTable.contextSignature_ne (JoinTable.head?_seriesSignature name' context')
      (by decide) name context

end Demand

/-! ## Names of joins -/

/-- **The name of a join tells its index**, whatever its kind is called: no digit is an
underscore. -/
theorem Join.aliasOf_inj {kind kind' : String} {i i' : Nat}
    (h : aliasOf kind i = aliasOf kind' i') : i = i' := by
  have score : ∀ n : Nat, '_' ∉ Nat.toDigits 10 n := fun n mem =>
    absurd (Nat.isDigit_of_mem_toDigits (by decide) (by decide) mem) (by decide)
  have chars := congrArg String.toList h
  simp only [aliasOf, Nat.toString_eq_repr, Nat.repr_eq_ofList_toDigits, String.toList_append,
    String.toList_ofList, show "_".toList = ['_'] from rfl, List.append_assoc,
    List.cons_append, List.nil_append] at chars
  have digits : Nat.toDigits 10 i = Nat.toDigits 10 i' := by
    rcases List.append_eq_append_iff.mp chars with ⟨more, _, rest⟩ | ⟨more, _, rest⟩
    · cases more with
      | nil => exact (List.cons.inj rest).2
      | cons c more =>
        have rest := (List.cons.inj rest).2
        exact (score i (rest ▸ List.mem_append_right more List.mem_cons_self)).elim
    · cases more with
      | nil => exact (List.cons.inj rest).2.symm
      | cons c more =>
        have rest := (List.cons.inj rest).2
        exact (score i' (rest ▸ List.mem_append_right more List.mem_cons_self)).elim
  simpa using congrArg (Nat.ofDigitChars 10 · 0) digits

/-! ## What joins are planned for -/

/-- **A join that was planned for a demand**, at an index. -/
structure Join.Serves (j : Join) (index : Nat) (d : Demand) : Prop where
  aliasName : ∃ kind, j.aliasName = aliasOf kind index
  signature : j.signature = d.signature
  table : j.table = d.table
  params : j.params = [.text d.key]

/-- **A join that selects a context for the metric joined as `metric`.** -/
structure Join.Selects (j : Join) (metric : String) (context : Dictionary) : Prop where
  table : j.table = contextsTable
  condition : j.condition = metric ++ ".context_id = " ++ j.aliasName ++ ".id"
  params : j.params = []
  context : j.context = context

namespace JoinTable

/-- **A join of a table that has the joins of `refs`**, and where it comes from: it was planned for
the first demand with its signature, or for the context of a metric. -/
inductive Planned (t : JoinTable) (refs : List Reference) (index : Nat) (j : Join) : Prop
  | demand {before after : List Reference} {ref : Reference} {d : Demand}
    (place : refs = before ++ ref :: after) (asked : ref.origin.demand? = some d)
    (serves : j.Serves index d)
    (first : ∀ b ∈ before, ∀ e, b.origin.demand? = some e → e.signature ≠ d.signature)
  | context {ref : Reference} {runs name : String} {context : Dictionary} (mem : ref ∈ refs)
    (origin : ref.origin = .series runs name context) (filled : context.isEmpty = false)
    (aliasName : ∃ kind, j.aliasName = Join.aliasOf kind index)
    (signature : j.signature = Origin.contextSignature name context)
    (selects : j.Selects (t.aliasFor (Origin.seriesSignature name context)) context)

/-- A table with the joins of attributes and no others. -/
structure PlannedFor (t : JoinTable) (refs : List Reference) : Prop where
  holds : ∀ ref ∈ refs, t.Holds ref.origin
  planned : ∀ index j, t.joins[index]? = some j → t.Planned refs index j

variable {t : JoinTable}

/-- A request leaves the joins that are there; a new one stands behind them. -/
theorem getElem?_allocate {signature : String} {build : Nat → Join} {index : Nat} {j : Join}
    (stored : (t.allocate signature build).2.joins[index]? = some j) :
    t.joins[index]? = some j ∨
      t.index? signature = none ∧ j = { build index with signature } := by
  unfold allocate at stored
  cases found : t.index? signature with
  | some i =>
    rw [found] at stored
    exact .inl stored
  | none =>
    rw [found] at stored
    by_cases old : index < t.joins.length
    · rw [List.getElem?_append_left old] at stored
      exact .inl stored
    · rw [List.getElem?_append_right (by omega), List.getElem?_singleton] at stored
      split at stored
      next last =>
        cases stored
        obtain rfl : index = t.joins.length := by omega
        exact .inr ⟨rfl, rfl⟩
      · cases stored

/-- **What planning an attribute adds**: the join of its demand, and that of its context. -/
theorem getElem?_plan {ref : Reference} {index : Nat} {j : Join}
    (stored : (t.plan ref).joins[index]? = some j) :
    t.joins[index]? = some j ∨
      (∃ d, ref.origin.demand? = some d ∧ t.index? d.signature = none ∧ j.Serves index d) ∨
      ∃ runs name context, ref.origin = .series runs name context ∧ context.isEmpty = false ∧
        (∃ kind, j.aliasName = Join.aliasOf kind index) ∧
        j.signature = Origin.contextSignature name context ∧
        j.Selects ((t.plan ref).aliasFor (Origin.seriesSignature name context)) context := by
  have table : (t.plan ref).tableOf ref.origin =
      ((⟨t, []⟩ : Plan).place ref.origin).1.table := by
    rw [(Plan.place_spec ⟨t, []⟩ ref.origin).2.2.1, placement]
    rfl
  revert stored table
  unfold plan
  cases origin : ref.origin with
  | table name => exact fun stored _ => .inl stored
  | keyed runs store key =>
    intro stored _
    rcases getElem?_allocate stored with old | ⟨new, rfl⟩
    · exact .inl old
    · exact .inr (.inl ⟨_, rfl, new, ⟨_, rfl⟩, rfl, rfl, rfl⟩)
  | series runs name context =>
    have first : ∀ {index} {j : Join}, ((⟨t, []⟩ : Plan).join (Origin.seriesSignature name context)
        (Join.ofKey "metrics" latestMetricsTable runs name)).2.joins.joins[index]? = some j →
        t.joins[index]? = some j ∨ ∃ d, (Origin.series runs name context).demand? = some d ∧
          t.index? d.signature = none ∧ j.Serves index d := by
      intro index j stored
      rcases getElem?_allocate stored with old | ⟨new, rfl⟩
      · exact .inl old
      · exact .inr ⟨_, rfl, new, ⟨_, rfl⟩, rfl, rfl, rfl⟩
    simp only [Plan.place, tableOf]
    split
    · intro stored _
      exact (first stored).imp_right .inl
    next filled =>
      intro stored table
      rcases getElem?_allocate stored with old | ⟨new, rfl⟩
      · exact (first old).imp_right .inl
      · refine .inr (.inr ⟨runs, name, context, rfl, by simpa using filled, ⟨_, rfl⟩, rfl, rfl, ?_,
          rfl, rfl⟩)
        dsimp only
        rw [table]
        rfl

theorem Planned.of_le {u : JoinTable} {refs : List Reference} {index : Nat} {j : Join}
    (h : t.Planned refs index j) (le : t ≤ u) (holds : ∀ ref ∈ refs, t.Holds ref.origin)
    (more : List Reference) : u.Planned (refs ++ more) index j := by
  cases h with
  | demand place asked serves first =>
    exact .demand (by rw [place, List.append_assoc, List.cons_append]) asked serves first
  | context mem origin filled aliasName signature selects =>
    have held := (holds _ mem).join _ (by rw [origin]; rfl)
    rw [← aliasFor_of_le le held] at selects
    exact .context (List.mem_append_left _ mem) origin filled aliasName signature selects

/-- **One step keeps it**: a table planned for attributes, with one more attribute. -/
theorem PlannedFor.plan {refs : List Reference} (h : t.PlannedFor refs) (ref : Reference) :
    (t.plan ref).PlannedFor (refs ++ [ref]) := by
  refine ⟨fun r mem => ?_, fun index j stored => ?_⟩
  · rcases List.mem_append.mp mem with mem | mem
    · exact (h.holds r mem).of_le (t.le_plan ref)
    · cases List.mem_singleton.mp mem
      exact t.holds_plan ref
  · rcases getElem?_plan stored with old | ⟨d, asked, new, serves⟩ | ⟨runs, name, context, rest⟩
    · exact (h.planned index j old).of_le (t.le_plan ref) h.holds [ref]
    · refine .demand rfl asked serves fun b mem e asked' same => ?_
      have held := (h.holds b mem).join _ (by rw [Origin.signature?_eq, asked']; rfl)
      rw [same, new] at held
      cases held
    · obtain ⟨origin, filled, aliasName, signature, selects⟩ := rest
      exact .context (List.mem_append_right _ List.mem_cons_self) origin filled aliasName signature
        selects

/-- **A table planned from nothing** has the joins of its attributes and no others. -/
theorem plannedFor_planAll (refs : List Reference) : (empty.planAll refs).PlannedFor refs := by
  have run : ∀ (refs before : List Reference) (t : JoinTable), t.PlannedFor before →
      (t.planAll refs).PlannedFor (before ++ refs) := by
    intro refs
    induction refs with
    | nil =>
      intro before t h
      rwa [List.append_nil]
    | cons ref refs ih =>
      intro before t h
      have step := ih (before ++ [ref]) (t.plan ref) (h.plan ref)
      rwa [List.append_assoc] at step
  exact run refs [] empty ⟨nofun, nofun⟩

/-- Joins have names of their own. -/
theorem PlannedFor.nodup {refs : List Reference} (h : t.PlannedFor refs) :
    (t.joins.map (·.aliasName)).Nodup := by
  have named : ∀ index j, t.joins[index]? = some j →
      ∃ kind, j.aliasName = Join.aliasOf kind index := by
    intro index j stored
    cases h.planned index j stored with
    | demand place asked serves first => exact serves.aliasName
    | context mem origin filled aliasName signature selects => exact aliasName
  rw [List.Nodup, List.pairwise_map, List.pairwise_iff_getElem]
  intro i i' bound bound' less same
  obtain ⟨kind, eq⟩ := named i _ (List.getElem?_eq_getElem bound)
  obtain ⟨kind', eq'⟩ := named i' _ (List.getElem?_eq_getElem bound')
  have equal := Join.aliasOf_inj (eq ▸ eq' ▸ same)
  omega

end JoinTable

/-! ## Attributes as they are written -/

namespace AttributePath

variable {tables : Dictionary} {p : AttributePath} {operand : Operand} {ref : Reference}

/-- What an attribute of a kind asks of a join. -/
def demandOf? (p : AttributePath) : AttributeKind → Option Demand
  | .metricSeries =>
    p.subscript.map fun s => .sampled s.name ((s.context.getD .empty).mapKeys canonicalKey)
  | .keyed store => p.key.toOption.map (.stored store)
  | _ => none

theorem demandOf?_kind {entity : Entity} {kind : AttributeKind} (named : p.entity = entity.name)
    (field : kind.Named entity p.field) : p.demandOf? kind = p.demand? := by
  cases kind with
  | column | flag | duration | firstStep =>
    obtain ⟨metrics, tags, params⟩ := Entity.ne_joined_of_own (field.mem_ownFields rfl)
    simp [demandOf?, demand?, metrics, tags, params]
  | experimentName | metricSeries | context =>
    obtain ⟨rfl, field⟩ := field
    simp [demandOf?, demand?, named, Entity.name, field]
  | keyed store =>
    cases store <;> obtain ⟨rfl, field⟩ := field <;>
      simp [demandOf?, demand?, named, Entity.name, field]

theorem demand?_of_series {runs : String} (h : p.series runs = .ok operand)
    (named : operand.reference? = some ref) :
    ref.origin.demand? = p.demandOf? .metricSeries := by
  obtain ⟨_, _, column, sampled, rfl⟩ := series_eq_ok.mp h
  cases column <;> cases named <;>
    simp [demandOf?, sampled.subscript, Origin.ofSeries, Origin.demand?]

theorem demand?_of_operandOf {entity : Entity} {table : String} {kind : AttributeKind}
    (h : p.operandOf tables entity table kind = .ok operand)
    (named : operand.reference? = some ref) : ref.origin.demand? = p.demandOf? kind := by
  cases kind with
  | metricSeries => exact demand?_of_series h named
  | column | flag | duration | firstStep =>
    obtain ⟨_, _, h⟩ := bind_eq_ok.mp h
    cases h
    cases named
    rfl
  | keyed =>
    obtain ⟨key, found, h⟩ := bind_eq_ok.mp h
    cases h
    cases named
    simp [demandOf?, found, Origin.demand?, Except.toOption]
  | experimentName | context =>
    obtain ⟨_, _, h⟩ := bind_eq_ok.mp h
    split at h <;> cases h
    cases named
    rfl

/-- **The reference of a path asks what the path asks.** -/
theorem demand?_of_reference? (h : p.reference? tables = some ref) :
    ref.origin.demand? = p.demand? := by
  obtain ⟨operand, found, named⟩ := Option.bind_eq_some_iff.mp h
  obtain ⟨_, _, _, known, _, listed, found⟩ := operand_eq_ok.mp (toOption_eq_some.mp found)
  rw [demand?_of_operandOf found named, demandOf?_kind known (Entity.named_of_attribute? listed)]

end AttributePath

/-! ## The law -/

namespace JoinTable

variable {t : JoinTable} {refs : List Reference} {ref : Reference} {d : Demand}

theorem tableOf_of_demand? {origin : Origin} (asked : origin.demand? = some d) :
    t.tableOf origin = t.aliasFor d.signature := by
  cases origin <;> cases asked <;> rfl

/-- **The join of an attribute** has the signature of its demand, and is bound to the first demand
that it serves. -/
theorem PlannedFor.served (h : t.PlannedFor refs) (mem : ref ∈ refs)
    (asked : ref.origin.demand? = some d) :
    ∃ j ∈ t.joins, j.aliasName = t.tableOf ref.origin ∧ j.signature = d.signature ∧
      ∃ before e after, refs.filterMap (·.origin.demand?) = before ++ e :: after ∧ e.Shares d ∧
        (∀ b ∈ before, ¬ b.Shares d) ∧ j.table = e.table ∧ j.params = [.text e.key] := by
  obtain ⟨index, found⟩ := Option.isSome_iff_exists.mp
    ((h.holds ref mem).join d.signature (by rw [Origin.signature?_eq, asked]; rfl))
  obtain ⟨j, stored, signature⟩ := get?_of_index? found
  have aliasName : j.aliasName = t.tableOf ref.origin := by
    rw [tableOf_of_demand? asked, aliasFor, found, Option.bind_some, stored]
  refine ⟨j, List.mem_of_getElem? stored, aliasName, signature, ?_⟩
  cases h.planned index j stored with
  | @demand before after ref e place asked' serves first =>
    have shares : e.Shares d := Demand.signature_eq_iff.mp (serves.signature.symm.trans signature)
    refine ⟨before.filterMap (·.origin.demand?), e, after.filterMap (·.origin.demand?), ?_, shares,
      fun b mem shares' => ?_, serves.table, serves.params⟩
    · simp [place, asked']
    · obtain ⟨r, mem, asked⟩ := List.mem_filterMap.mp mem
      refine first r mem b asked ?_
      rw [Demand.signature_eq_iff.mpr shares', Demand.signature_eq_iff.mpr shares]
  | context mem origin filled aliasName own selects =>
    exact (d.signature_ne_context _ _ (signature.symm.trans own)).elim

/-- Attributes are found in one join exactly if their demands share it. -/
theorem PlannedFor.tableOf_eq_iff (h : t.PlannedFor refs) {ref' : Reference} {e : Demand}
    (mem : ref ∈ refs) (asked : ref.origin.demand? = some d) (mem' : ref' ∈ refs)
    (asked' : ref'.origin.demand? = some e) :
    t.tableOf ref.origin = t.tableOf ref'.origin ↔ d.Shares e := by
  rw [← Demand.signature_eq_iff]
  constructor
  · intro same
    obtain ⟨j, stored, aliasName, signature, _⟩ := h.served mem asked
    obtain ⟨j', stored', aliasName', signature', _⟩ := h.served mem' asked'
    have equal : j = j' := List.inj_on_of_nodup_map h.nodup stored stored'
      (aliasName.trans (same.trans aliasName'.symm))
    rw [← signature, ← signature', equal]
  · intro same
    rw [tableOf_of_demand? asked, tableOf_of_demand? asked', same]

/-- The join of a name. -/
theorem PlannedFor.find?_aliasName (h : t.PlannedFor refs) {j : Join} (mem : j ∈ t.joins) :
    t.joins.find? (fun k => k.aliasName = j.aliasName) = some j := by
  cases found : t.joins.find? fun k => k.aliasName = j.aliasName with
  | none => simpa using List.find?_eq_none.mp found j mem
  | some k =>
    have same : k.aliasName = j.aliasName := by simpa using List.find?_some found
    rw [List.inj_on_of_nodup_map h.nodup (List.mem_of_find?_eq_some found) mem same]

/-- **The join of an attribute's context** selects that context for the join of its metric. -/
theorem PlannedFor.selected (h : t.PlannedFor refs) (mem : ref ∈ refs) {name : String}
    {context : Dictionary} (asked : ref.origin.demand? = some (.sampled name context))
    (filled : context.isEmpty = false) :
    ∃ index k, t.contextIndex? ref.origin = some index ∧ t.joins[index]? = some k ∧
      k.Selects (t.tableOf ref.origin) context := by
  obtain ⟨runs, origin⟩ : ∃ runs, ref.origin = .series runs name context := by
    revert asked
    cases ref.origin with
    | table => nofun
    | keyed => nofun
    | series runs =>
      intro asked
      cases asked
      exact ⟨runs, rfl⟩
  have selector : ref.origin.context? = some (Origin.contextSignature name context, context) := by
    rw [origin, Origin.context?, filled]
    rfl
  obtain ⟨index, found⟩ := Option.isSome_iff_exists.mp
    ((h.holds ref mem).context _ _ selector)
  obtain ⟨k, stored, signature⟩ := get?_of_index? found
  refine ⟨index, k, by rw [contextIndex?, selector, Option.bind_some, found], stored, ?_⟩
  cases h.planned index k stored with
  | demand place asked' serves first =>
    exact (Demand.signature_ne_context _ _ _ (serves.signature.symm.trans signature)).elim
  | context mem' origin' filled' aliasName own selects =>
    obtain ⟨rfl, rfl⟩ := contextSignature_inj filled' filled (own.symm.trans signature)
    rwa [tableOf_of_demand? asked]

end JoinTable

namespace Resolution

/-- **The join that an attribute is found in**: the one whose name its columns have. -/
def joinOf? (r : Resolution) (tables : Dictionary) (p : AttributePath) : Option Join :=
  (p.reference? tables).bind fun ref =>
    r.joins.find? fun j => j.aliasName = (⟨r.joins⟩ : JoinTable).tableOf ref.origin

/-- The join that selects the context of an attribute. -/
def contextJoinOf? (r : Resolution) (tables : Dictionary) (p : AttributePath) : Option Join :=
  (p.reference? tables).bind fun ref =>
    ((⟨r.joins⟩ : JoinTable).contextIndex? ref.origin).bind fun index => r.joins[index]?

/-- **Joins are shared exactly by demand**: attributes use one join exactly if they ask for the
same, and the join of each is bound to its own key, with a join for its own context. -/
structure SharesExactly (r : Resolution) (tables : Dictionary) (f : Filter) : Prop where
  same : ∀ p ∈ f.paths, ∀ q ∈ f.paths, ∀ d e, p.demand? = some d → q.demand? = some e →
    (r.joinOf? tables p = r.joinOf? tables q ↔ d = e)
  bound : ∀ p ∈ f.paths, ∀ d, p.demand? = some d → ∃ j, r.joinOf? tables p = some j ∧
    j.table = d.table ∧ j.params = [.text d.key] ∧
    ∀ name context, d = .sampled name context → context.isEmpty = false →
      ∃ k, r.contextJoinOf? tables p = some k ∧ k.Selects j.aliasName context

variable {tables : Dictionary} {f : Filter} {c : Condition}

/-- The paths of a checked filter stand for its references. -/
theorem mem_references (checked : f.condition tables = .ok c) {p : AttributePath}
    (mem : p ∈ f.paths) : ∃ ref ∈ c.references, p.reference? tables = some ref := by
  have named : p.reference? tables ∈ c.references.map some := by
    rw [← Filter.references_condition checked]
    exact List.mem_map_of_mem mem
  obtain ⟨ref, mem, eq⟩ := List.mem_map.mp named
  exact ⟨ref, mem, eq.symm⟩

theorem demands_eq (checked : f.condition tables = .ok c) :
    f.demands = c.references.filterMap (·.origin.demand?) := by
  have asked : ∀ p ∈ f.paths, p.demand? = (p.reference? tables).bind (·.origin.demand?) := by
    intro p mem
    obtain ⟨ref, _, named⟩ := mem_references checked mem
    rw [named, Option.bind_some, AttributePath.demand?_of_reference? named]
  have references := congrArg (List.filterMap fun ref? => ref?.bind (·.origin.demand?))
    (Filter.references_condition checked)
  simp only [List.filterMap_map, Function.comp_def, Option.bind_some] at references
  rw [Filter.demands, List.filterMap_congr asked, references]

/-- The joins of a resolved filter are those that its attributes ask for, one after the other. -/
theorem joins_ofCondition (c : Condition) :
    (⟨(ofCondition c).joins⟩ : JoinTable) = JoinTable.empty.planAll c.references :=
  Condition.resolve_joins c true .empty JoinTable.faithful_empty

/-- The predicate of a resolved filter is read off its joins. -/
theorem predicate_ofCondition (c : Condition) :
    (ofCondition c).predicate = some (c.readOff ⟨(ofCondition c).joins⟩ true) :=
  congrArg some (Condition.resolve_eq_readOff c true .empty JoinTable.faithful_empty _
    (JoinTable.le_refl _))

/-- The joins of a resolved filter are planned for its attributes. -/
theorem plannedFor_ofCondition (c : Condition) :
    (⟨(ofCondition c).joins⟩ : JoinTable).PlannedFor c.references := by
  rw [joins_ofCondition]
  exact JoinTable.plannedFor_planAll c.references

/-- The join of an attribute that asks for one. -/
theorem exists_joinOf? (checked : f.condition tables = .ok c) {p : AttributePath}
    (mem : p ∈ f.paths) {d : Demand} (asked : p.demand? = some d) :
    ∃ ref ∈ c.references, p.reference? tables = some ref ∧ ref.origin.demand? = some d ∧
      ∃ j ∈ (ofCondition c).joins, (ofCondition c).joinOf? tables p = some j ∧
        j.aliasName = (⟨(ofCondition c).joins⟩ : JoinTable).tableOf ref.origin ∧
        j.table = d.table ∧ ∃ before e after, f.demands = before ++ e :: after ∧ e.Shares d ∧
          (∀ b ∈ before, ¬ b.Shares d) ∧ j.params = [.text e.key] := by
  have planned := plannedFor_ofCondition c
  obtain ⟨ref, mem, named⟩ := mem_references checked mem
  have asked' := (AttributePath.demand?_of_reference? named).trans asked
  obtain ⟨j, stored, aliasName, _, before, e, after, place, shares, first, table, params⟩ :=
    planned.served mem asked'
  refine ⟨ref, mem, named, asked', j, stored, ?_, aliasName, table.trans shares.table_eq,
    before, e, after, (demands_eq checked).trans place, shares, first, params⟩
  rw [joinOf?, named, Option.bind_some, ← aliasName]
  exact planned.find?_aliasName stored

/-- **Joins are shared by demand.** A resolved filter is read off its joins, whose names differ. Two
attributes are found in one join exactly if they ask for the same or one mimics the other. The join
of an attribute is bound to the key of the first attribute with which it shares the join, and a
context is selected for it by a join of its own. So joins are shared exactly by demand if and only
if no attribute mimics another. -/
theorem sharing_by_demand (tables : Dictionary) (f : Filter) (r : Resolution)
    (accepted : ofFilter tables (some f) = .ok r) :
    ∃ c, f.condition tables = .ok c ∧ r.predicate = some (c.readOff ⟨r.joins⟩ true) ∧
      f.paths.map (·.reference? tables) = c.references.map some ∧
      (r.joins.map (·.aliasName)).Nodup ∧
      (∀ p ∈ f.paths, ∀ q ∈ f.paths, ∀ d e, p.demand? = some d → q.demand? = some e →
        (r.joinOf? tables p = r.joinOf? tables q ↔ d.Shares e)) ∧
      (∀ p ∈ f.paths, ∀ d, p.demand? = some d → ∃ j, r.joinOf? tables p = some j ∧
        j.table = d.table ∧
        (∃ before e after, f.demands = before ++ e :: after ∧ e.Shares d ∧
          (∀ b ∈ before, ¬ b.Shares d) ∧ j.params = [.text e.key]) ∧
        ∀ name context, d = .sampled name context → context.isEmpty = false →
          ∃ k, r.contextJoinOf? tables p = some k ∧ k.Selects j.aliasName context) ∧
      (r.SharesExactly tables f ↔ ∀ d ∈ f.demands, ∀ e ∈ f.demands, ¬ d.Mimics e) := by
  obtain ⟨c, checked, rfl⟩ := ofFilter_eq_ok.mp accepted
  have planned := plannedFor_ofCondition c
  have same : ∀ p ∈ f.paths, ∀ q ∈ f.paths, ∀ d e, p.demand? = some d → q.demand? = some e →
      ((ofCondition c).joinOf? tables p = (ofCondition c).joinOf? tables q ↔ d.Shares e) := by
    intro p memP q memQ d e askedP askedQ
    obtain ⟨ref, mem, _, asked, j, stored, joined, aliasName, _⟩ :=
      exists_joinOf? checked memP askedP
    obtain ⟨ref', mem', _, asked', j', stored', joined', aliasName', _⟩ :=
      exists_joinOf? checked memQ askedQ
    rw [joined, joined', ← planned.tableOf_eq_iff mem asked mem' asked', ← aliasName, ← aliasName',
      Option.some.injEq]
    exact ⟨congrArg _, List.inj_on_of_nodup_map planned.nodup stored stored'⟩
  have bound : ∀ p ∈ f.paths, ∀ d, p.demand? = some d →
      ∃ j, (ofCondition c).joinOf? tables p = some j ∧ j.table = d.table ∧
        (∃ before e after, f.demands = before ++ e :: after ∧ e.Shares d ∧
          (∀ b ∈ before, ¬ b.Shares d) ∧ j.params = [.text e.key]) ∧
        ∀ name context, d = .sampled name context → context.isEmpty = false →
          ∃ k, (ofCondition c).contextJoinOf? tables p = some k ∧
            k.Selects j.aliasName context := by
    intro p mem d asked
    obtain ⟨ref, mem, named, asked, j, stored, joined, aliasName, table, bound⟩ :=
      exists_joinOf? checked mem asked
    refine ⟨j, joined, table, bound, ?_⟩
    rintro name context rfl filled
    obtain ⟨index, k, selected, stored, selects⟩ := planned.selected mem asked filled
    refine ⟨k, ?_, aliasName ▸ selects⟩
    rw [contextJoinOf?, named, Option.bind_some, selected, Option.bind_some, stored]
  refine ⟨c, checked, predicate_ofCondition c, Filter.references_condition checked, planned.nodup, same, bound,
    ?_, ?_⟩
  · intro shared d memD e memE mimics
    obtain ⟨p, memP, asked⟩ := List.mem_filterMap.mp memD
    obtain ⟨q, memQ, asked'⟩ := List.mem_filterMap.mp memE
    exact mimics.ne ((shared.same p memP q memQ d e asked asked').mp
      ((same p memP q memQ d e asked asked').mpr (.inr (.inl mimics))))
  · intro plain
    have equal : ∀ d ∈ f.demands, ∀ e ∈ f.demands, d.Shares e → d = e := by
      rintro d memD e memE (eq | mimics | mimics)
      · exact eq
      · exact (plain d memD e memE mimics).elim
      · exact (plain e memE d memD mimics).elim
    refine ⟨fun p memP q memQ d e asked asked' => ?_, fun p mem d asked => ?_⟩
    · rw [same p memP q memQ d e asked asked']
      exact ⟨equal d (List.mem_filterMap.mpr ⟨p, memP, asked⟩) e
        (List.mem_filterMap.mpr ⟨q, memQ, asked'⟩), .inl⟩
    · obtain ⟨j, joined, table, ⟨before, e, after, place, shares, _, params⟩, selects⟩ :=
        bound p mem d asked
      have own : e = d := equal e (by simp [place]) d (List.mem_filterMap.mpr ⟨p, mem, asked⟩) shares
      exact ⟨j, joined, table, own ▸ params, selects⟩

/-- In `lossOnSubset` no attribute mimics another: the metric is joined once for both places where
it is named, and its context once. -/
theorem sharing_by_demand_lossOnSubset :
    ∃ r, ofFilter Settings.standardTables (some lossOnSubset) = .ok r ∧
      r.SharesExactly Settings.standardTables lossOnSubset ∧
      r.joins.map (·.aliasName) = ["metrics_0", "contexts_1"] := by
  refine ⟨_, rfl, ?_, rfl⟩
  obtain ⟨c, _, _, _, _, _, _, shared⟩ :=
    sharing_by_demand Settings.standardTables lossOnSubset _ rfl
  have demands : lossOnSubset.demands =
      List.replicate 2 (.sampled "loss" (.ofList [("subset", "val")])) := rfl
  rw [shared, demands]
  intro d memD e memE mimics
  exact mimics.ne ((List.eq_of_mem_replicate memD).trans (List.eq_of_mem_replicate memE).symm)

/-- A metric without a context that is named like the loss on one subset, and that loss. -/
def lossTwice : Filter :=
  let loss (subscript : Subscript) : Filter := .attribute
    { entity := "run", field := "metrics", subscript, member := some "last", offset := 0 }
  .both
    (.comparison (loss ⟨"loss:\x7b\"subset\":\"val\"\x7d", none⟩) .less (.literal (.int 1)) 0)
    (.comparison (loss ⟨"loss", some (.ofList [("subset", "val")])⟩) .less (.literal (.int 2)) 0)

/-- **The two metrics of `lossTwice` share a join.** It is bound to the name of the first, so the
second is compared with samples of the first. -/
theorem mimic_shares_join :
    ∃ r, ofFilter Settings.standardTables (some lossTwice) = .ok r ∧
      r.joins.map (·.aliasName) = ["metrics_0", "contexts_1"] ∧
      r.joins.flatMap (·.params) = [.text "loss:\x7b\"subset\":\"val\"\x7d"] ∧
      ¬ r.SharesExactly Settings.standardTables lossTwice := by
  refine ⟨_, rfl, rfl, rfl, fun shared => ?_⟩
  have same := (shared.same _ List.mem_cons_self _ (List.mem_cons_of_mem _ List.mem_cons_self) _ _
    rfl rfl).mp rfl
  injection same with name
  exact absurd name (by decide)

end Resolution

end RunFilter
