import RunFilter.Proofs.Parsing.Filter

/-!
# Filters that were read

Every `and` and `or` that the reader makes has two operands at least: a level with one operand adds
no node. A statement relies on this where it decides on parentheses by counting operands. The fact
is one of the grammar, so it is proved for derivations, by induction on their nesting.
-/

set_option autoImplicit false

namespace RunFilter

namespace Filter

mutual
/-- **Every `and` and `or` outside calls and comparisons has two operands at least.** -/
def Wide : Filter → Prop
  | .boolean .not operands => WideAll operands
  | .boolean _ operands => 2 ≤ operands.length ∧ WideAll operands
  | .literal _ | .list _ | .attribute _ | .comparison .. | .call .. => True
/-- All filters are wide. -/
def WideAll : List Filter → Prop
  | [] => True
  | f :: fs => f.Wide ∧ WideAll fs
end

theorem wideAll_iff {fs : List Filter} : WideAll fs ↔ ∀ f ∈ fs, f.Wide := by
  induction fs with
  | nil => exact ⟨fun _ _ mem => (nomatch mem), fun _ => trivial⟩
  | cons f fs ih => rw [WideAll, ih, List.forall_mem_cons]

mutual
theorem wide_bare : ∀ f : Filter, f.bare.Wide ↔ f.Wide
  | .literal _ | .list _ | .attribute _ | .comparison .. | .call .. => Iff.rfl
  | .boolean op operands => by
    have operands_iff := wideAll_bare operands
    rw [bareAll_eq_map] at operands_iff
    cases op <;>
      simp only [bare, bareAll_eq_map, Wide, operands_iff, List.length_map]
theorem wideAll_bare : ∀ fs : List Filter, WideAll (bareAll fs) ↔ WideAll fs
  | [] => Iff.rfl
  | f :: fs => by
    simp only [bareAll, WideAll, wide_bare f, wideAll_bare fs]
end

end Filter

namespace Grammar

open RunFilter.Filter

theorem Separated.forall {α : Type} {word : Symbol} {part : List Token → α → Nat → Prop}
    {P : α → Prop} {n : Nat} {ts : List Token} {xs : List α} (h : Separated word part ts xs n)
    (each : ∀ {ts x}, part ts x n → P x) : xs ≠ [] ∧ ∀ x ∈ xs, P x := by
  induction h with
  | one h => exact ⟨List.cons_ne_nil _ _, List.forall_mem_singleton.mpr (each h)⟩
  | more h _ ih => exact ⟨List.cons_ne_nil _ _, List.forall_mem_cons.mpr ⟨each h, (ih each).2⟩⟩

/-- The node of a level is wide: where it has operands, it has several. -/
theorem wide_node {op : Connective} (ne : op ≠ .not) {fs : List Filter} (filled : fs ≠ [])
    (wide : ∀ f ∈ fs, f.Wide) : (node op fs).Wide := by
  cases fs with
  | nil => exact absurd rfl filled
  | cons f fs =>
    cases fs with
    | nil => exact wide f List.mem_cons_self
    | cons g gs =>
      have several : 2 ≤ (f :: g :: gs).length := Nat.le_add_left 2 gs.length
      cases op with
      | and => exact ⟨several, wideAll_iff.mpr wide⟩
      | or => exact ⟨several, wideAll_iff.mpr wide⟩
      | not => exact absurd rfl ne

theorem Chain.wide {left : Filter} {ts : List Token} {fs : List Filter} {n : Nat}
    (h : Chain left ts fs n) : ∀ f ∈ fs, f.Wide := by
  induction fs generalizing left ts with
  | nil => exact fun _ mem => (nomatch mem)
  | cons f fs ih =>
    cases h with
    | cons spelt operand more => exact List.forall_mem_cons.mpr ⟨trivial, ih more⟩

theorem Comparison.wide {n : Nat} (operands : ∀ {ts f}, Operand ts f n → f.Wide) {ts : List Token}
    {f : Filter} (h : Comparison ts f n) : f.Wide := by
  cases h with
  | operand h => exact operands h
  | chain h more ne => exact wide_node (by decide) ne more.wide

/-- Groups and `not` take a level of nesting each, and the induction is on these levels. -/
theorem wide_of_nesting (n : Nat) :
    (∀ {ts f}, Negation ts f n → f.Wide) ∧ ∀ {ts f}, Expression ts f n → f.Wide := by
  have levels : ∀ {n}, (∀ {ts f}, Negation ts f n → f.Wide) →
      ∀ {ts f}, Expression ts f n → f.Wide := by
    intro n negations ts f h
    have conjunctions : ∀ {ts f}, Conjunction ts f n → f.Wide := by
      intro ts f h
      cases h with
      | of h =>
        obtain ⟨ne, wide⟩ := h.forall negations
        exact wide_node (by decide) ne wide
    cases h with
    | of h =>
      obtain ⟨ne, wide⟩ := h.forall conjunctions
      exact wide_node (by decide) ne wide
  induction n with
  | zero =>
    have operands : ∀ {ts f}, Operand ts f 0 → f.Wide := by
      intro ts f h
      cases h <;> trivial
    have negations : ∀ {ts f}, Negation ts f 0 → f.Wide := by
      intro ts f h
      cases h with
      | comparison h => exact h.wide operands
    exact ⟨negations, levels negations⟩
  | succ n ih =>
    have operands : ∀ {ts f}, Operand ts f (n + 1) → f.Wide := by
      intro ts f h
      cases h with
      | group h => exact ih.2 h
      | constant | list | path | method | pattern => trivial
    have negations : ∀ {ts f}, Negation ts f (n + 1) → f.Wide := by
      intro ts f h
      cases h with
      | not h => exact ⟨ih.1 h, trivial⟩
      | comparison h => exact h.wide operands
    exact ⟨negations, levels negations⟩

end Grammar

/-- **Filters that were read are wide.** -/
theorem Filter.wide_of_parse {s : String} {f : Filter} (h : parse s = .ok (some f)) : f.Wide := by
  obtain ⟨la, view, ⟨_, none⟩ | ⟨_, f', last, some, read, _⟩⟩ :=
    ofTokens?_eq_ok.mp (parse_eq_ok.mp h)
  · cases none
  · cases some
    obtain ⟨ts, _, derived⟩ := sound_expressionWithin _ _ read
    exact (wide_bare f).mp ((Grammar.wide_of_nesting _).2 derived)

end RunFilter
