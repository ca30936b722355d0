import RunFilter.Proofs.Parsing.Groups
import RunFilter.Proofs.Parsing.Width

/-!
# How high filters are

A pass over a filter calls itself as deep as the filter is high. The reader counts groups and `not`,
so these add a bounded number of levels; between two of them stand at most an `or`, an `and`, the
`and` of a chain and a comparison. It does not count calls, and the arguments of a call are whole
filters.

**The law** (`height_of_parse`): a filter that was read is no higher than the nesting of its calls
allows, and for every nesting of calls there is a text whose filter is as high as that. Calls in
calls therefore make filters of any height (`nestedCalls_high`). The induction is on the nesting of
calls first and on the levels of groups and `not` second: a call takes no level of the reader, and
what stands in its arguments has one call less around it.
-/

set_option autoImplicit false

namespace RunFilter

namespace Filter

mutual
/-- **The height of a filter**: how many nodes stand on a way from its root to a leaf at most. -/
def height : Filter → Nat
  | .literal _ | .list _ | .attribute _ => 1
  | .comparison left _ right _ => max left.height right.height + 1
  | .boolean _ operands | .call _ operands _ => heightAll operands + 1
/-- The height of the highest of filters. -/
def heightAll : List Filter → Nat
  | [] => 0
  | f :: fs => max f.height (heightAll fs)
end

mutual
/-- **How deep calls are nested** in the arguments of calls. -/
def callDepth : Filter → Nat
  | .literal _ | .list _ | .attribute _ => 0
  | .comparison left _ right _ => max left.callDepth right.callDepth
  | .boolean _ operands => callDepthAll operands
  | .call _ arguments _ => callDepthAll arguments + 1
/-- The nesting of calls in the filter where they are nested most. -/
def callDepthAll : List Filter → Nat
  | [] => 0
  | f :: fs => max f.callDepth (callDepthAll fs)
end

mutual
@[simp] theorem height_bare : ∀ f : Filter, f.bare.height = f.height
  | .literal _ | .list _ | .attribute _ => rfl
  | .comparison left op right _ => by
    rw [bare, height, height, height_bare left, height_bare right]
  | .boolean _ operands => congrArg (· + 1) (heightAll_bare operands)
  | .call _ arguments _ => congrArg (· + 1) (heightAll_bare arguments)
@[simp] theorem heightAll_bare : ∀ fs : List Filter, heightAll (bareAll fs) = heightAll fs
  | [] => rfl
  | f :: fs => by rw [bareAll, heightAll, heightAll, height_bare f, heightAll_bare fs]
end

mutual
@[simp] theorem callDepth_bare : ∀ f : Filter, f.bare.callDepth = f.callDepth
  | .literal _ | .list _ | .attribute _ => rfl
  | .comparison left op right _ => by
    rw [bare, callDepth, callDepth, callDepth_bare left, callDepth_bare right]
  | .boolean _ operands => callDepthAll_bare operands
  | .call _ arguments _ => congrArg (· + 1) (callDepthAll_bare arguments)
@[simp] theorem callDepthAll_bare : ∀ fs : List Filter,
    callDepthAll (bareAll fs) = callDepthAll fs
  | [] => rfl
  | f :: fs => by rw [bareAll, callDepthAll, callDepthAll, callDepth_bare f, callDepthAll_bare fs]
end

theorem heightAll_le {fs : List Filter} {bound : Nat} :
    heightAll fs ≤ bound ↔ ∀ f ∈ fs, f.height ≤ bound := by
  induction fs with
  | nil => simp [heightAll]
  | cons f fs ih => rw [heightAll, Nat.max_le, ih, List.forall_mem_cons]

theorem callDepthAll_le {fs : List Filter} {bound : Nat} :
    callDepthAll fs ≤ bound ↔ ∀ f ∈ fs, f.callDepth ≤ bound := by
  induction fs with
  | nil => simp [callDepthAll]
  | cons f fs ih => rw [callDepthAll, Nat.max_le, ih, List.forall_mem_cons]

/-- **A filter that is no higher than `bound`** if its calls are nested at most `calls` deep. -/
def Low (calls bound : Nat) (f : Filter) : Prop := f.callDepth ≤ calls → f.height ≤ bound

theorem Low.mono {calls bound bound' : Nat} {f : Filter} (h : f.Low calls bound)
    (le : bound ≤ bound') : f.Low calls bound' := fun within => Nat.le_trans (h within) le

end Filter

/-! ## Filters of the grammar -/

namespace Grammar

open RunFilter.Filter

variable {calls bound n : Nat} {ts : List Token} {f : Filter} {fs : List Filter}

theorem low_boolean (op : Connective) (low : ∀ f ∈ fs, f.Low calls bound) :
    (Filter.boolean op fs).Low calls (bound + 1) := by
  intro within
  have within : ∀ f ∈ fs, f.callDepth ≤ calls := callDepthAll_le.mp within
  exact Nat.succ_le_succ (heightAll_le.mpr fun f mem => low f mem (within f mem))

/-- A level adds one node at most. -/
theorem low_node (op : Connective) (low : ∀ f ∈ fs, f.Low calls bound) :
    (node op fs).Low calls (bound + 1) := by
  unfold node
  split
  next only => exact (low only List.mem_cons_self).mono (Nat.le_succ bound)
  next => exact low_boolean op low

/-- A chain adds the comparisons and a node around them. -/
theorem Chain.low {left : Filter} (h : Chain left ts fs n) (first : left.Low calls bound)
    (operands : ∀ {ts f}, Operand ts f n → f.Low calls bound) :
    ∀ f ∈ fs, f.Low calls (bound + 1) := by
  induction fs generalizing left ts with
  | nil => exact fun _ mem => (nomatch mem)
  | cons f fs ih =>
    cases h with
    | cons spelt operand more =>
      have right := operands operand
      refine List.forall_mem_cons.mpr ⟨fun within => ?_, ih more right⟩
      obtain ⟨inLeft, inRight⟩ := Nat.max_le.mp within
      exact Nat.succ_le_succ (Nat.max_le.mpr ⟨first inLeft, right inRight⟩)

theorem Comparison.low (h : Comparison ts f n)
    (operands : ∀ {ts f}, Operand ts f n → f.Low calls bound) : f.Low calls (bound + 2) := by
  cases h with
  | operand h => exact fun within => Nat.le_add_right_of_le (operands h within)
  | chain h more _ => exact low_node .and (more.low (operands h) operands)

theorem Expression.low (h : Expression ts f n)
    (negations : ∀ {ts f}, Negation ts f n → f.Low calls bound) : f.Low calls (bound + 2) := by
  cases h with
  | of alternatives =>
    refine low_node .or (alternatives.forall fun conjunction => ?_).2
    cases conjunction with
    | of conjuncts => exact low_node .and (conjuncts.forall negations).2

theorem Elements.forall {α : Type} {close : Symbol} {element : List Token → α → Nat → Prop}
    {P : α → Prop} {xs : List α} (h : Elements close element ts xs n)
    (each : ∀ {ts x}, element ts x n → P x) : ∀ x ∈ xs, P x := by
  induction h with
  | none => exact fun _ mem => (nomatch mem)
  | last h => exact List.forall_mem_singleton.mpr (each h)
  | comma h _ ih => exact List.forall_mem_cons.mpr ⟨each h, ih each⟩

/-- A call is higher than its arguments by one, and has one call more than they have. -/
theorem low_call {function : Function}
    (arguments : ∀ fewer, calls = fewer + 1 → ∀ f ∈ fs, f.Low fewer (bound + 5 * fewer + 4)) :
    (Filter.call function fs 0).Low calls (bound + 5 * calls) := by
  intro within
  cases calls with
  | zero => cases within
  | succ fewer =>
    have within : ∀ f ∈ fs, f.callDepth ≤ fewer :=
      callDepthAll_le.mp (Nat.le_of_succ_le_succ within)
    have low : heightAll fs ≤ bound + 5 * fewer + 4 :=
      heightAll_le.mpr fun f mem => arguments fewer rfl f mem (within f mem)
    rw [height]
    omega

/-- The height of an operand, from those of the filters in its group or in its arguments. -/
theorem Operand.low (h : Operand ts f n)
    (groups : ∀ m, n = m + 1 → ∀ {ts f}, Expression ts f m → f.Low calls (4 * m + 5 * calls + 5))
    (arguments : ∀ fewer, calls = fewer + 1 → ∀ {ts f}, Expression ts f n →
      f.Low fewer (4 * n + 5 * fewer + 5)) : f.Low calls (4 * n + 1 + 5 * calls) := by
  have leaf : ∀ {f : Filter} {calls bound : Nat}, f.height = 1 → f.Low calls (bound + 1) :=
    fun one _ => one.trans_le (Nat.le_add_left 1 _)
  have passed : ∀ {us args}, Elements .rightParen Expression us args n →
      ∀ fewer, calls = fewer + 1 → ∀ f ∈ args, f.Low fewer (4 * n + 1 + 5 * fewer + 4) :=
    fun h fewer one => h.forall fun derived => (arguments fewer one derived).mono (by omega)
  cases h with
  | constant | list | path => exact (@leaf _ _ 0 rfl).mono (by omega)
  | group h => exact (groups _ rfl h).mono (by omega)
  | method h known args =>
    exact low_call fun fewer one => List.forall_mem_cons.mpr ⟨leaf rfl, passed args fewer one⟩
  | pattern known args => exact low_call (passed args)

/-- **The height of a derived filter.** Each group and each `not` adds four levels at most, and each
call five. -/
theorem low_of_derivation (calls n : Nat) :
    (∀ {ts f}, Negation ts f n → f.Low calls (4 * n + 1 + 5 * calls + 2)) ∧
      ∀ {ts f}, Expression ts f n → f.Low calls (4 * n + 5 * calls + 5) := by
  induction calls using Nat.strong_induction_on generalizing n with
  | _ calls fewerCalls =>
    have arguments : ∀ n fewer, calls = fewer + 1 → ∀ {ts f}, Expression ts f n →
        f.Low fewer (4 * n + 5 * fewer + 5) := by
      rintro n fewer rfl ts f h
      exact (fewerCalls fewer (Nat.lt_succ_self fewer) n).2 h
    induction n with
    | zero =>
      have negations : ∀ {ts f}, Negation ts f 0 → f.Low calls (4 * 0 + 1 + 5 * calls + 2) := by
        intro ts f h
        cases h with
        | comparison h => exact h.low fun operand => operand.low nofun (arguments 0)
      exact ⟨negations, fun h => (h.low negations).mono (by omega)⟩
    | succ n inner =>
      have groups : ∀ m, n + 1 = m + 1 → ∀ {ts f}, Expression ts f m →
          f.Low calls (4 * m + 5 * calls + 5) := by
        rintro m same ts f h
        cases same
        exact inner.2 h
      have negations : ∀ {ts f}, Negation ts f (n + 1) →
          f.Low calls (4 * (n + 1) + 1 + 5 * calls + 2) := by
        intro ts f h
        cases h with
        | not h =>
          have part := List.forall_mem_singleton.mpr (inner.1 h)
          exact (low_boolean .not part).mono (by omega)
        | comparison h => exact h.low fun operand => operand.low groups (arguments (n + 1))
      exact ⟨negations, fun h => (h.low negations).mono (by omega)⟩

end Grammar

/-! ## Texts of high filters -/

namespace Filter

/-- What makes of an operand a chain in an `and` in an `or`. -/
def surroundings : List Char := " == 0 == 0 and 0 or 0".toList

/-- An operand in its surroundings. -/
def surrounded (f : Filter) : Filter :=
  let zero : Filter := .literal (.int 0)
  let chain : Filter := .boolean .and [.comparison f .equal zero 0, .comparison zero .equal zero 0]
  .boolean .or [.boolean .and [chain, zero], zero]

/-- A call around a filter. -/
def called (f : Filter) : Filter := .call .patternAtStart [f] 0

/-- A call of `re.match` around a text. -/
def inCall (cs : List Char) : List Char := "re.match(".toList ++ (cs ++ [')'])

/-- **Calls in calls** around a zero. -/
def nestedCalls : Nat → List Char
  | 0 => "0".toList
  | n + 1 => inCall (nestedCalls n)

/-- Calls in calls, with surroundings in each of them. -/
def highCalls : Nat → List Char
  | 0 => "0".toList
  | n + 1 => inCall (highCalls n ++ surroundings)

/-- Groups around calls in calls, with surroundings in each of them. -/
def highGroups (calls : Nat) : Nat → List Char
  | 0 => highCalls calls
  | n + 1 => '(' :: (highGroups calls n ++ surroundings ++ [')'])

/-- **A text whose tokens derive a filter** as a part of a kind, with groups and `not` nested at
most `n` deep. -/
def Spells (part : List Token → Filter → Nat → Prop) (n : Nat) (cs : List Char) (f : Filter) :
    Prop := ∃ ts, Reads cs ts ∧ part ts f n

variable {n : Nat} {cs : List Char} {f : Filter}

theorem spells_zero (n : Nat) : Spells Grammar.Operand n "0".toList (.literal (.int 0)) := by
  have tokens : (tokenize "0").toOption = some ([.literal (.int 0)] ++ [.endOfText]) := by
    decide +kernel
  exact ⟨_, tokenize_eq_ok_iff_reads.mp (toOption_eq_some.mp tokens), .constant (.of _)⟩

namespace Spells

/-- An operand alone is a filter. -/
theorem alone (h : Spells Grammar.Operand n cs f) : Spells Grammar.Expression n cs f := by
  obtain ⟨ts, reads, operand⟩ := h
  exact ⟨ts, reads, .of (.one (.of (.one (.comparison (.operand operand)))))⟩

theorem surrounded (h : Spells Grammar.Operand n cs f) :
    Spells Grammar.Expression n (cs ++ surroundings) f.surrounded := by
  obtain ⟨ts, reads, operand⟩ := h
  have zero : Grammar.Operand [.literal (.int 0)] (.literal (.int 0)) n := .constant (.of _)
  have equal : [.equal] ∈ Grammar.spellings .equal := by decide
  have tokens : (tokenize (String.ofList surroundings)).toOption = some
      (([.symbol .equal, .literal (.int 0), .symbol .equal, .literal (.int 0), .symbol .andWord,
        .literal (.int 0), .symbol .orWord, .literal (.int 0)] : List Token) ++ [.endOfText]) := by
    decide +kernel
  have behind := tokenize_eq_ok_iff_reads.mp (toOption_eq_some.mp tokens)
  rw [String.toList_ofList] at behind
  have chain : Grammar.Comparison _ _ n :=
    .chain operand (.cons equal zero (.cons equal zero .nil)) (List.cons_ne_nil _ _)
  have conjunction : Grammar.Conjunction _ _ n :=
    .of (.more (.comparison chain) (.one (.comparison (.operand zero))))
  have expression : Grammar.Expression _ f.surrounded n :=
    .of (.more conjunction (.one (.of (.one (.comparison (.operand zero))))))
  refine ⟨_, reads.append (c := ' ') ⟨by decide, by decide⟩ behind, ?_⟩
  simpa using expression

/-- A call around a filter is an operand. -/
theorem inCall (h : Spells Grammar.Expression n cs f) :
    Spells Grammar.Operand n (inCall cs) f.called := by
  obtain ⟨ts, reads, expression⟩ := h
  have closed : Reads (cs ++ [')']) (ts ++ [.symbol .rightParen]) :=
    reads.append Reads.separates_rightParen (.rightParen (.finish rfl))
  have called : Reads (Filter.inCall cs) (.name "re" :: .symbol .dot :: .name "match" ::
      .symbol .leftParen :: (ts ++ [.symbol .rightParen])) :=
    .token rfl (by decide) (.token rfl (by decide) (.token rfl (by decide) closed.leftParen))
  have known : ("match", Function.patternAtStart) ∈ Grammar.patternFunctions := by decide
  exact ⟨_, called, .pattern known (.last expression)⟩

/-- A group around a filter is an operand and takes a level. -/
theorem inGroup (h : Spells Grammar.Expression n cs f) :
    Spells Grammar.Operand (n + 1) ('(' :: (cs ++ [')'])) f := by
  obtain ⟨ts, reads, expression⟩ := h
  exact ⟨_, (reads.append Reads.separates_rightParen (.rightParen (.finish rfl))).leftParen,
    .group expression⟩

/-- The filter that a text is read as. -/
theorem exists_parse (h : Spells Grammar.Expression maxNesting cs f) :
    ∃ f', parse (String.ofList cs) = .ok (some f') ∧ f'.callDepth = f.callDepth ∧
      f'.height = f.height := by
  obtain ⟨ts, reads, expression⟩ := h
  rw [← @String.toList_ofList cs] at reads
  obtain ⟨f', read, rfl⟩ := Filter.exists_parse reads expression
  exact ⟨f', read, (callDepth_bare f').symm, (height_bare f').symm⟩

end Spells

theorem callDepth_surrounded (f : Filter) : f.surrounded.callDepth = f.callDepth := by
  simp [surrounded, callDepth, callDepthAll]

theorem height_surrounded {height : Nat} (h : f.height = height + 1) :
    f.surrounded.height = height + 5 := by
  simp [surrounded, Filter.height, heightAll, h]

theorem spells_highCalls (n calls : Nat) : ∃ f, Spells Grammar.Operand n (highCalls calls) f ∧
    f.callDepth = calls ∧ f.height = 5 * calls + 1 := by
  induction calls with
  | zero => exact ⟨_, spells_zero n, rfl, rfl⟩
  | succ calls ih =>
    obtain ⟨f, spells, depth, height⟩ := ih
    refine ⟨_, spells.surrounded.inCall, ?_, ?_⟩
    · simp [called, callDepth, callDepthAll, callDepth_surrounded, depth]
    · simp [called, Filter.height, heightAll, height_surrounded height]
      omega

theorem spells_highGroups (calls n : Nat) : ∃ f, Spells Grammar.Operand n (highGroups calls n) f ∧
    f.callDepth = calls ∧ f.height = 4 * n + 5 * calls + 1 := by
  induction n with
  | zero =>
    obtain ⟨f, spells, depth, height⟩ := spells_highCalls 0 calls
    exact ⟨f, spells, depth, by omega⟩
  | succ n ih =>
    obtain ⟨f, spells, depth, height⟩ := ih
    refine ⟨_, spells.surrounded.inGroup, (callDepth_surrounded f).trans depth, ?_⟩
    rw [height_surrounded height]
    omega

/-! ## The law -/

/-- For every nesting of calls some filter is as high as the law allows. -/
theorem exists_height (calls : Nat) : ∃ s f, parse s = .ok (some f) ∧ f.callDepth = calls ∧
    f.height = 4 * maxNesting + 5 * (calls + 1) := by
  obtain ⟨f, spells, depth, height⟩ := spells_highGroups calls maxNesting
  obtain ⟨f', read, depth', height'⟩ := spells.surrounded.exists_parse
  rw [callDepth_surrounded, depth] at depth'
  rw [height_surrounded height] at height'
  exact ⟨_, f', read, depth', by omega⟩

/-- **The height of a filter that was read.** It is no higher than its calls allow, so it is at most
`5 * (maxNesting + 1)` high if calls are nested at most twenty deep. No nesting of calls allows
less: another filter with calls as deep is as high as that. -/
theorem height_of_parse {s : String} {f : Filter} (read : parse s = .ok (some f)) :
    f.height ≤ 4 * maxNesting + 5 * (f.callDepth + 1) ∧
      (f.callDepth ≤ 20 → f.height ≤ 5 * (maxNesting + 1)) ∧
      ∃ s' f', parse s' = .ok (some f') ∧ f'.callDepth = f.callDepth ∧
        f'.height = 4 * maxNesting + 5 * (f.callDepth + 1) := by
  have bound : f.height ≤ 4 * maxNesting + 5 * (f.callDepth + 1) := by
    obtain ⟨_, _, _, _, _, _, derived⟩ := exists_derivation read
    have low := (Grammar.low_of_derivation f.callDepth maxNesting).2 derived
    rw [Low, callDepth_bare, height_bare] at low
    exact (low (Nat.le_refl _)).trans (by omega)
  refine ⟨bound, fun few => bound.trans ?_, exists_height f.callDepth⟩
  rw [maxNesting]
  omega

/-- A call in a call in a group is read, and it is no higher than the law says. -/
theorem height_of_parse_callInCall :
    ∃ f, parse "(re.match(re.search()))" = .ok (some f) ∧ f.callDepth = 2 ∧
      f.height ≤ 5 * (maxNesting + 1) := by
  have depth : (parse "(re.match(re.search()))").toOption.join.map callDepth = some 2 := by
    decide +kernel
  obtain ⟨f, read, depth⟩ := Option.map_eq_some_iff.mp depth
  have read := toOption_eq_some.mp (Option.join_eq_some_iff.mp read)
  exact ⟨f, read, depth, (height_of_parse read).2.1 (by omega)⟩

theorem spells_nestedCalls (n calls : Nat) : ∃ f, Spells Grammar.Operand n (nestedCalls calls) f ∧
    f.height = calls + 1 := by
  induction calls with
  | zero => exact ⟨_, spells_zero n, rfl⟩
  | succ calls ih =>
    obtain ⟨f, spells, height⟩ := ih
    exact ⟨_, spells.alone.inCall, by simp [called, Filter.height, heightAll, height]⟩

/-- **Calls in calls are read however deep they are**: with 505 of them around a zero, the filter
is higher than `5 * (maxNesting + 1)`. -/
theorem nestedCalls_high : ∃ f, parse (String.ofList (nestedCalls 505)) = .ok (some f) ∧
    ¬ f.height ≤ 5 * (maxNesting + 1) := by
  obtain ⟨f, spells, height⟩ := spells_nestedCalls maxNesting 505
  obtain ⟨f', read, _, height'⟩ := spells.alone.exists_parse
  refine ⟨f', read, ?_⟩
  rw [height', height, maxNesting]
  decide

end Filter

end RunFilter
