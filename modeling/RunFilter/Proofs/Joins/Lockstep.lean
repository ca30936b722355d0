import Mathlib.Data.List.Forall2
import RunFilter.Proofs.Joins.Sharing
import RunFilter.Proofs.Shape

/-!
# Tables in lockstep

Two lists of attributes that ask for joins of the same kinds, and share them at the same places, make
two tables that grow in lockstep: where one request finds a join, so does the other, at the same
index, and where one makes a join, the other makes one with the same text (`Lockstep.planAll`). The
tables differ only in signatures, in bound values and in the content of contexts.

Signatures correspond one to one (`biUnique_sameRequest`): those of attributes because the lists
share alike, those of contexts because each is made of the signature of its metric, and no signature
is of both kinds.
-/

set_option autoImplicit false

namespace RunFilter

/-! ## Joins with one outline -/

/-- **Joins of one outline**: they show the same text, bind values of the same kinds, and select
contexts of the same size. -/
structure Join.SameOutline (j k : Join) : Prop where
  table : j.table = k.table
  aliasName : j.aliasName = k.aliasName
  condition : j.condition = k.condition
  params : j.params.map Value.shape = k.params.map Value.shape
  size : j.context.entries.length = k.context.entries.length

theorem Join.SameOutline.sql {j k : Join} (h : j.SameOutline k) : j.sql = k.sql := by
  unfold Join.sql
  rw [h.table, h.aliasName, h.condition]

/-- What joins of one outline have in common, lists of them have in common. -/
theorem Join.map_eq_of_sameOutline {js ks : List Join} (h : List.Forall₂ SameOutline js ks)
    {α : Type} {f : Join → α} (each : ∀ j k : Join, j.SameOutline k → f j = f k) :
    js.map f = ks.map f := by
  induction h with
  | nil => rfl
  | cons same _ ih => rw [List.map_cons, List.map_cons, each _ _ same, ih]

/-- **Attributes that ask alike**: for a join of the same kind, with signatures that correspond, and
for a context of the same size. -/
inductive Origin.AsksLike (S : String → String → Prop) : Origin → Origin → Prop
  | table (name : String) : AsksLike S (.table name) (.table name)
  | keyed (runs : String) (store : KeyStore) {key key' : String}
    (same : S (keyedSignature store key) (keyedSignature store key')) :
    AsksLike S (.keyed runs store key) (.keyed runs store key')
  | series (runs : String) {name name' : String} {context context' : Dictionary}
    (same : S (seriesSignature name context) (seriesSignature name' context'))
    (size : context.entries.length = context'.entries.length)
    (selector : context.isEmpty = false →
      S (contextSignature name context) (contextSignature name' context')) :
    AsksLike S (.series runs name context) (.series runs name' context')

theorem Dictionary.isEmpty_eq_of_size {c d : Dictionary}
    (size : c.entries.length = d.entries.length) : c.isEmpty = d.isEmpty := by
  rw [Bool.eq_iff_iff]
  simp only [isEmpty, List.isEmpty_iff_length_eq_zero, size]

theorem Plan.aliasAt_eq_getD (plan : Plan) (index : Nat) :
    plan.aliasAt index = ((plan.joins.get? index).map (·.aliasName)).getD "" := by
  unfold aliasAt
  cases plan.joins.get? index <;> rfl

namespace JoinTable

theorem aliasFor_eq_getD (t : JoinTable) (signature : String) : t.aliasFor signature =
    ((t.index? signature).bind fun index => (t.get? index).map (·.aliasName)).getD "" := by
  unfold aliasFor
  cases t.index? signature with
  | none => rfl
  | some index => cases stored : t.get? index <;> simp [stored]

/-! ## Tables in lockstep -/

/-- **Two tables in lockstep**: joins at one index have one outline and signatures that
correspond. -/
def Lockstep (S : String → String → Prop) (t u : JoinTable) : Prop :=
  List.Forall₂ (fun j k => S j.signature k.signature ∧ j.SameOutline k) t.joins u.joins

namespace Lockstep

variable {S : String → String → Prop} {t u : JoinTable} {s s' : String}

theorem empty : Lockstep S .empty .empty := .nil

theorem sameOutline (h : t.Lockstep S u) : List.Forall₂ Join.SameOutline t.joins u.joins :=
  List.Forall₂.imp (fun _ _ same => same.2) h

/-- **Signatures that correspond are found at one index**, or not at all. -/
theorem index?_eq (h : t.Lockstep S u) (unique : Relator.BiUnique S) (asked : S s s') :
    t.index? s = u.index? s' := by
  unfold index?
  unfold Lockstep at h
  generalize t.joins = js, u.joins = ks at h
  induction h with
  | nil => rfl
  | @cons j k js ks same _ ih =>
    have here : j.signature = s ↔ k.signature = s' := Relator.rel_eq unique same.1 asked
    rw [List.findIdx?_cons, List.findIdx?_cons, decide_eq_decide.mpr here, ih]

theorem aliasAt_eq (h : t.Lockstep S u) (index : Nat) :
    (t.get? index).map (·.aliasName) = (u.get? index).map (·.aliasName) := by
  rw [get?, get?, ← List.getElem?_map, ← List.getElem?_map,
    Join.map_eq_of_sameOutline h.sameOutline fun _ _ same => same.aliasName]

theorem aliasFor_eq (h : t.Lockstep S u) (unique : Relator.BiUnique S) (asked : S s s') :
    t.aliasFor s = u.aliasFor s' := by
  rw [aliasFor_eq_getD, aliasFor_eq_getD, h.index?_eq unique asked]
  simp only [h.aliasAt_eq]

/-- **Requests that correspond keep tables in lockstep**, and are answered alike. -/
theorem allocate (h : t.Lockstep S u) (unique : Relator.BiUnique S) (asked : S s s')
    {build build' : Nat → Join} (alike : ∀ index, (build index).SameOutline (build' index)) :
    (t.allocate s build).1 = (u.allocate s' build').1 ∧
      (t.allocate s build).2.Lockstep S (u.allocate s' build').2 := by
  unfold JoinTable.allocate
  rw [h.index?_eq unique asked]
  cases u.index? s' with
  | some index => exact ⟨rfl, h⟩
  | none =>
    have length : t.joins.length = u.joins.length := List.Forall₂.length_eq h
    refine ⟨length, List.rel_append h (.cons ⟨asked, ?_⟩ .nil)⟩
    rw [length]
    exact ⟨(alike _).table, (alike _).aliasName, (alike _).condition, (alike _).params,
      (alike _).size⟩

/-- Joins by key have one outline, whatever the key. -/
theorem sameOutline_ofKey (kind table runs key key' : String) (index : Nat) :
    (Join.ofKey kind table runs key index).SameOutline (Join.ofKey kind table runs key' index) :=
  ⟨rfl, rfl, rfl, rfl, rfl⟩

/-- Joins that select contexts of one size for one metric have one outline. -/
theorem sameOutline_ofContext {metric metric' : String} {context context' : Dictionary}
    (same : metric = metric') (size : context.entries.length = context'.entries.length)
    (index : Nat) :
    (Join.ofContext metric context index).SameOutline (Join.ofContext metric' context' index) :=
  ⟨rfl, rfl, by rw [same]; rfl, rfl, size⟩

/-- **One step.** Attributes that ask alike keep tables in lockstep. -/
theorem plan (h : t.Lockstep S u) (unique : Relator.BiUnique S) {ref ref' : Reference}
    (alike : ref.origin.AsksLike S ref'.origin) : (t.plan ref).Lockstep S (u.plan ref') := by
  unfold JoinTable.plan
  generalize ref.origin = origin, ref'.origin = origin' at alike
  cases alike with
  | table => exact h
  | keyed runs store same => exact (h.allocate unique same (sameOutline_ofKey _ _ _ _ _)).2
  | @series runs name name' context context' same size selector =>
    obtain ⟨index, metric⟩ := h.allocate unique same
      (sameOutline_ofKey "metrics" latestMetricsTable runs name name')
    simp only [Plan.place, Dictionary.isEmpty_eq_of_size size]
    split
    · exact metric
    next filled =>
      rw [← Dictionary.isEmpty_eq_of_size size, Bool.not_eq_true] at filled
      -- The join of the context is tied to the metric by name, and that is found at one index.
      refine (metric.allocate unique (selector filled) fun last => ?_).2
      refine sameOutline_ofContext ?_ size last
      rw [Plan.aliasAt_eq_getD, Plan.aliasAt_eq_getD]
      refine congrArg (Option.getD · "") ?_
      exact index ▸ metric.aliasAt_eq _

/-- **The run.** Attributes that ask alike, one after the other, keep tables in lockstep. -/
theorem planAll (h : t.Lockstep S u) (unique : Relator.BiUnique S) {refs refs' : List Reference}
    (alike : List.Forall₂ (fun ref ref' => ref.origin.AsksLike S ref'.origin) refs refs') :
    (t.planAll refs).Lockstep S (u.planAll refs') := by
  induction alike generalizing t u with
  | nil => exact h
  | cons first _ ih => exact ih (h.plan unique first)

end Lockstep

/-! ## Where attributes are found -/

end JoinTable

/-- **What a statement shows of an attribute**: the table or the join where it is found, and of its
context, if it has one, the index and the name of the join and the number of its keys. -/
structure Spot where
  table : String
  context : Option (Option Nat × String × Nat)

namespace JoinTable

/-- The spot of an attribute in a table. -/
def spot (t : JoinTable) (origin : Origin) : Spot :=
  { table := t.tableOf origin
    context := origin.context?.map fun asked =>
      (t.index? asked.1, t.aliasFor asked.1, asked.2.entries.length) }

/-- **Attributes that ask alike are found at one spot** of tables in lockstep. -/
theorem Lockstep.spot_eq {S : String → String → Prop} {t u : JoinTable} (h : t.Lockstep S u)
    (unique : Relator.BiUnique S) {origin origin' : Origin} (alike : origin.AsksLike S origin') :
    t.spot origin = u.spot origin' := by
  cases alike with
  | table => rfl
  | keyed runs store same => simp [spot, tableOf, Origin.context?, h.aliasFor_eq unique same]
  | @series runs name name' context context' same size selector =>
    cases filled : context.isEmpty with
    | true =>
      have filled' := (Dictionary.isEmpty_eq_of_size size).symm.trans filled
      simp [spot, tableOf, Origin.context?, h.aliasFor_eq unique same, filled, filled']
    | false =>
      have filled' := (Dictionary.isEmpty_eq_of_size size).symm.trans filled
      simp [spot, tableOf, Origin.context?, h.aliasFor_eq unique same, filled, filled', size,
        h.index?_eq unique (selector filled), h.aliasFor_eq unique (selector filled)]

/-- The spots of attributes in a table. -/
def spots (t : JoinTable) (refs : List Reference) : List Spot :=
  refs.map fun ref => t.spot ref.origin

theorem Lockstep.spots_eq {S : String → String → Prop} {t u : JoinTable} (h : t.Lockstep S u)
    (unique : Relator.BiUnique S) {refs refs' : List Reference}
    (alike : List.Forall₂ (fun ref ref' => ref.origin.AsksLike S ref'.origin) refs refs') :
    t.spots refs = u.spots refs' := by
  induction alike with
  | nil => rfl
  | cons first _ ih => exact congrArg₂ List.cons (h.spot_eq unique first) ih

end JoinTable

/-! ## Signatures that correspond -/

/-- **Signatures that two lists of attributes ask for at one place.** -/
inductive SameRequest (refs refs' : List Reference) : String → String → Prop
  | join {ref ref' : Reference} {s s' : String} (mem : (ref, ref') ∈ refs.zip refs')
    (asked : ref.origin.signature? = some s) (asked' : ref'.origin.signature? = some s') :
    SameRequest refs refs' s s'
  | context {ref ref' : Reference} {s s' : String} {context context' : Dictionary}
    (mem : (ref, ref') ∈ refs.zip refs') (asked : ref.origin.context? = some (s, context))
    (asked' : ref'.origin.context? = some (s', context')) : SameRequest refs refs' s s'

/-- **Two lists of attributes share joins alike**: two attributes of one list have one signature
exactly if those at their places in the other list have. -/
def ShareAlike (refs refs' : List Reference) : Prop :=
  ∀ p ∈ refs.zip refs', ∀ q ∈ refs.zip refs',
    (p.1.origin.signature? = q.1.origin.signature? ↔
      p.2.origin.signature? = q.2.origin.signature?)

namespace Origin

variable {origin origin' : Origin} {s s' : String} {context : Dictionary}

/-- The signature of a context is made of that of its metric. -/
theorem signature?_of_context? (h : origin.context? = some (s, context)) :
    ∃ own, origin.signature? = some own ∧ s = "contexts:" ++ own := by
  obtain ⟨_, _, rfl, _, rfl⟩ := series_of_context? h
  exact ⟨_, rfl, rfl⟩

theorem signature?_ne_context? (h : origin.signature? = some s)
    (h' : origin'.context? = some (s', context)) : s ≠ s' := by
  rw [signature?_eq] at h
  obtain ⟨d, _, rfl⟩ := Option.map_eq_some_iff.mp h
  obtain ⟨_, name, _, _, rfl⟩ := series_of_context? h'
  exact d.signature_ne_context name context

end Origin

/-- Attributes of one shape, at one place, ask alike if their contexts have one size. -/
theorem Origin.asksLike_of_shape {refs refs' : List Reference} {ref ref' : Reference}
    (mem : (ref, ref') ∈ refs.zip refs') (shape : ref.origin.shape = ref'.origin.shape)
    (size : ∀ name context name' context', ref.origin.demand? = some (.sampled name context) →
      ref'.origin.demand? = some (.sampled name' context') →
      context.entries.length = context'.entries.length) :
    ref.origin.AsksLike (SameRequest refs refs') ref'.origin := by
  have join : ∀ {s s'}, ref.origin.signature? = some s → ref'.origin.signature? = some s' →
      SameRequest refs refs' s s' := .join mem
  have context : ∀ s s' c c', ref.origin.context? = some (s, c) →
      ref'.origin.context? = some (s', c') → SameRequest refs refs' s s' :=
    fun _ _ _ _ => .context mem
  generalize ref.origin = origin, ref'.origin = origin' at shape size join context
  cases origin with
  | table name =>
    cases origin' <;> cases shape
    exact .table name
  | keyed runs store key =>
    cases origin' <;> cases shape
    exact .keyed runs store (join rfl rfl)
  | series runs name own =>
    cases origin' with
    | table | keyed => cases shape
    | series runs' name' own' =>
      cases shape
      have size := size _ _ _ _ rfl rfl
      refine .series runs (join rfl rfl) size fun filled => ?_
      have filled' : own'.isEmpty = false := (Dictionary.isEmpty_eq_of_size size).symm.trans filled
      refine context _ _ own own' ?_ ?_
      · rw [context?, filled]
        rfl
      · rw [context?, filled']
        rfl

/-- **Signatures correspond one to one** between lists that share joins alike. -/
theorem biUnique_sameRequest {refs refs' : List Reference} (alike : ShareAlike refs refs') :
    Relator.BiUnique (SameRequest refs refs') := by
  have same : ∀ {a a' b b' : String}, SameRequest refs refs' a a' → SameRequest refs refs' b b' →
      (a = b ↔ a' = b') := by
    intro a a' b b' h h'
    -- No signature is of an attribute and of a context, so mixed pairs differ on both sides.
    cases h with
    | join mem asked asked' =>
      cases h' with
      | join mem₂ asked₂ asked₂' =>
        simpa [asked, asked', asked₂, asked₂'] using alike _ mem _ mem₂
      | context mem₂ asked₂ asked₂' =>
        simp [Origin.signature?_ne_context? asked asked₂,
          Origin.signature?_ne_context? asked' asked₂']
    | context mem asked asked' =>
      cases h' with
      | join mem₂ asked₂ asked₂' =>
        simp [(Origin.signature?_ne_context? asked₂ asked).symm,
          (Origin.signature?_ne_context? asked₂' asked').symm]
      | context mem₂ asked₂ asked₂' =>
        obtain ⟨own, found, rfl⟩ := Origin.signature?_of_context? asked
        obtain ⟨own', found', rfl⟩ := Origin.signature?_of_context? asked'
        obtain ⟨own₂, found₂, rfl⟩ := Origin.signature?_of_context? asked₂
        obtain ⟨own₂', found₂', rfl⟩ := Origin.signature?_of_context? asked₂'
        simpa [found, found', found₂, found₂'] using alike _ mem _ mem₂
  exact ⟨fun _ _ _ h h' => (same h h').mpr rfl, fun _ _ _ h h' => (same h h').mp rfl⟩

end RunFilter
