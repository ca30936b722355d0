import RunFilter.Proofs.Admission
import RunFilter.Proofs.MetricSelection
import RunFilter.Proofs.SingleWalk

/-!
# Comparisons with their operands swapped

A comparison may be written with the constant in front. Which check then decides depends on the
attribute: flags take both orders alike, columns and first steps turn the operator round.

**The law** (`comparison_swapped`): a constant, an operator and an attribute make the same
comparison as the attribute, the operator turned round and the constant. They have the same
condition or the same mistake, and a walk that meets them in any state, with any joins, hoisted
contexts, waiting guards and flags, is in the same state behind them, also where they are refused.
A first step is compared with a whole number as zero is, on the side on which it stands.

The first half is `Condition.ofComparison_swapped`, one case for each kind of operand. A constant
does not move the walk, so it does not matter on which side of the attribute it is met. `Walk` has
no state behind a mistake; `Walk.Step` has, and is the same walk where nothing is refused
(`Walk.Step.outcome_leaf`).
-/

set_option autoImplicit false

namespace RunFilter

/-! ## Operators -/

namespace Operator

/-- **The order of two numbers that an operator asks for.** Membership relates no numbers. -/
def relates (op : Operator) (m n : Int) : Bool :=
  match op with
  | .equal => m = n
  | .notEqual => m ≠ n
  | .less => m < n
  | .greater => n < m
  | .lessEqual => m ≤ n
  | .greaterEqual => n ≤ m
  | .among | .notAmong => false

variable {op turned : Operator}

theorem relates_swapped (h : op.swapped = some turned) (m n : Int) :
    turned.relates m n = op.relates n m := by
  cases op <;> cases h <;> simp [relates, eq_comm]

theorem decide?_compare (h : op.swapped = some turned) (m n : Int) :
    Condition.decide? op (compare m n) = .ok (op.relates m n) := by
  change Condition.decide? op (compareOfLessAndEq m n) = _
  rcases Int.lt_trichotomy m n with less | rfl | greater
  · rw [compareOfLessAndEq, if_pos less]
    cases op <;> cases h <;> simp [Condition.decide?, relates] <;> omega
  · rw [compareOfLessAndEq, if_neg (Int.lt_irrefl m), if_pos rfl]
    cases op <;> cases h <;> simp [Condition.decide?, relates]
  · rw [compareOfLessAndEq, if_neg (by omega), if_neg (by omega)]
    cases op <;> cases h <;> simp [Condition.decide?, relates] <;> omega

end Operator

/-! ## Comparisons -/

namespace Condition

variable {op turned : Operator}

/-- A flag is the same on either side. -/
theorem ofFlag_swapped (h : op.swapped = some turned) (ref : Reference) (column value : String)
    (expected : Bool) : ofFlag ref column value op expected =
      ofFlag ref column value turned expected := by
  cases op <;> cases h <;> rfl

/-- A constant in front of a column is no part of a text where the operator can be turned round. -/
theorem ofPart_swapped (h : op.swapped = some turned) (value : Value) (ref : Reference)
    (part : Part) : ofPart value op ref part = ofColumn ref part turned value := by
  cases op <;> cases h <;> rfl

/-- **A constant and an operand compare as the operand and the constant do**, the operator turned
round. -/
theorem ofComparison_swapped (h : op.swapped = some turned) (value : Value) (found : Operand) :
    ofComparison (.constant value) op found = ofComparison found turned (.constant value) := by
  cases found with
  | flag ref column expected =>
    cases value with
    | bool b => exact ofFlag_swapped h ref column expected b
    | null | int | float | text => rfl
  | step ref =>
    simp only [ofComparison, ofSwapped, h]
  | column ref part =>
    simp only [ofComparison, ofPart_swapped h]
  | constant | list => simp only [ofComparison]

/-- **A first step is compared with a whole number as zero is.** -/
theorem ofComparison_step (h : op.swapped = some turned) (ref : Reference) (n : Int) :
    ofComparison (.step ref) op (.constant (.int n)) = .ok (.decided ref (op.relates 0 n)) := by
  change (decide? op (compare firstStep n)).map (Condition.decided ref) = _
  rw [Operator.decide?_compare h]
  rfl

end Condition

/-! ## A walk with its state behind a mistake -/

namespace AttributePath

/-- **A path that is found in the catalogue as an attribute of metrics.** What is written behind
the field may still be refused, but a metric was met. -/
def reachesMetric (tables : Dictionary) (p : AttributePath) : Bool :=
  p.entity = Entity.metric.name && (tables.get? Entity.metric.tableKey).isSome &&
    (Entity.metric.attribute? p.field).isSome

end AttributePath

namespace Walk

/-- **A step of a walk**: it gives a result or a mistake, and the state behind it in both cases. -/
abbrev Step := EStateM SyntaxError Walk

namespace Step

section

variable (tables : Dictionary) (bare : Bool)

/-- The attribute of a path. -/
def path (p : AttributePath) : Step Operand := do
  if p.reachesMetric tables then modify ({ · with metric := true })
  let found ← MonadExcept.ofExcept ((p.operand tables).mapError (·.at p.offset))
  modify (·.pass bare found)
  pure found

/-- An operand of a comparison. -/
def operand (offset : Nat) : Filter → Step Operand
  | .attribute p => path tables bare p
  | f => MonadExcept.ofExcept (f.operand? tables offset)

/-- **A comparison**, with the guards that it makes still waiting. -/
def comparison (left : Filter) (op : Operator) (right : Filter) (offset : Nat) :
    Step Predicate := do
  let left ← operand tables bare offset left
  let right ← operand tables bare offset right
  let leaf ← MonadExcept.ofExcept ((Condition.ofComparison left op right).mapError (·.at offset))
  pure (leaf.readOff (← get).plan.joins true)

/-- A leaf takes the guards that wait for it. -/
def guarded (leaf : Predicate) : Step Predicate := do
  let w ← get
  if w.guards.isEmpty then pure leaf
  else
    set { w with guards := [] }
    pure (.all (w.guards ++ [leaf]))

/-- A comparison as a leaf of a filter. -/
def leaf (left : Filter) (op : Operator) (right : Filter) (offset : Nat) : Step Predicate :=
  comparison tables bare left op right offset >>= guarded

end

/-- The result of a step, with the state if there is one. -/
def outcome {α : Type} : EStateM.Result SyntaxError Walk α → Except SyntaxError (α × Walk)
  | .ok a w => .ok (a, w)
  | .error e _ => .error e

variable {α β : Type} {tables : Dictionary} {bare : Bool} {w : Walk} {p : AttributePath}

theorem outcome_bind (x : Step α) (f : α → Step β) (w : Walk) :
    outcome ((x >>= f).run w) = outcome (x.run w) >>= fun (a, w) => outcome ((f a).run w) := by
  change outcome (EStateM.bind x f w) = _
  rw [EStateM.bind, EStateM.run]
  cases x w <;> rfl

/-- A path that stands for an attribute of metrics sets the flag on its own. -/
theorem pass_met {found : Operand} (reaches : p.reachesMetric tables = true)
    (known : p.operand tables = .ok found) (bare : Bool) (w : Walk) :
    ({ w with metric := true } : Walk).pass bare found = w.pass bare found := by
  obtain ⟨ref, own⟩ :=
    Option.isSome_iff_exists.mp (AttributePath.isSome_reference?_of_operand known)
  have named : p.reference? tables = some ref := by
    simp [AttributePath.reference?, known, Except.toOption, own]
  have metric : ref.isMetric = true := by
    rw [AttributePath.isMetric_of_reference? named]
    simp only [AttributePath.reachesMetric, Bool.and_eq_true, decide_eq_true_eq] at reaches
    exact .inl reaches.1.1
  simp only [pass, own, visit, metric, Bool.or_true]

theorem outcome_path (p : AttributePath) (offset : Nat) (w : Walk) :
    outcome ((path tables bare p).run w) = w.operand tables bare offset (.attribute p) := by
  have start : (path tables bare p).run w =
      ((MonadExcept.ofExcept ((p.operand tables).mapError (·.at p.offset)) >>= fun found => do
          modify (·.pass bare found)
          pure found : Step Operand)).run
        (if p.reachesMetric tables then { w with metric := true } else w) := by
    rw [path]
    cases p.reachesMetric tables <;> rfl
  rw [start, Walk.operand, Filter.operand?]
  cases known : p.operand tables with
  | error fault => cases p.reachesMetric tables <;> rfl
  | ok found =>
    cases reaches : p.reachesMetric tables with
    | false => rfl
    | true =>
      -- the flag was set before the check; planning the attribute sets it again
      change Except.ok (found, ({ w with metric := true } : Walk).pass bare found) = _
      rw [pass_met reaches known]
      rfl

theorem outcome_operand (offset : Nat) (f : Filter) (w : Walk) :
    outcome ((operand tables bare offset f).run w) = w.operand tables bare offset f := by
  match f with
  | .attribute p => exact outcome_path p offset w
  | .literal _ | .list _ | .comparison .. | .boolean .. | .call .. => rfl

theorem outcome_guarded (leaf : Condition) (w : Walk) :
    outcome ((guarded (leaf.readOff w.plan.joins true)).run w) = .ok (w.settle leaf) := by
  change outcome ((if w.guards.isEmpty then _ else _ : Step Predicate).run w) = _
  rw [settle]
  split <;> rfl

/-- **Where nothing is refused, it is the walk without a state behind mistakes.** -/
theorem outcome_leaf (left : Filter) (op : Operator) (right : Filter) (offset : Nat) (w : Walk) :
    outcome ((leaf tables bare left op right offset).run w) =
      w.comparison tables bare left op right offset := by
  simp only [leaf, comparison, bind_assoc, outcome_bind, outcome_operand]
  refine bind_congr fun ⟨l, w⟩ => bind_congr fun ⟨r, w⟩ => ?_
  dsimp only
  cases Condition.ofComparison l op r with
  | error fault => rfl
  | ok c => exact outcome_guarded c w

theorem outcome_eq_ok {r : EStateM.Result SyntaxError Walk α} {a : α} {after : Walk} :
    outcome r = .ok (a, after) ↔ r = .ok a after := by
  cases r <;> simp [outcome]

/-- Behind an attribute that exists, its joins are planned. -/
theorem run_path {found : Operand} (known : p.operand tables = .ok found) (bare : Bool)
    (w : Walk) : (path tables bare p).run w = .ok found (w.pass bare found) := by
  rw [← outcome_eq_ok, outcome_path p 0 w, Walk.operand, Filter.operand?, known]
  rfl

/-! ## Constants and attributes in a walk -/

variable {op turned : Operator}

/-- **An attribute compared with something that does not move the walk.** -/
def compared (tables : Dictionary) (bare : Bool) (p : AttributePath) (offset : Nat)
    (compare : Operand → Except Fault Condition) : Step Predicate := do
  let found ← path tables bare p
  let leaf ← MonadExcept.ofExcept ((compare found).mapError (·.at offset))
  pure (leaf.readOff (← get).plan.joins true)

theorem comparison_literal_path (l : Value) (op : Operator) (p : AttributePath) (offset : Nat) :
    comparison tables bare (.literal l) op (.attribute p) offset =
      compared tables bare p offset fun found => Condition.ofComparison (.constant l) op found :=
  rfl

theorem comparison_path_literal (p : AttributePath) (op : Operator) (l : Value) (offset : Nat) :
    comparison tables bare (.attribute p) op (.literal l) offset =
      compared tables bare p offset fun found => Condition.ofComparison found op (.constant l) :=
  rfl

/-- **A comparison of a first step that was decided.** -/
theorem run_compared_step {ref : Reference} (known : p.operand tables = .ok (.step ref))
    {compare : Operand → Except Fault Condition} {holds : Bool}
    (decided : compare (.step ref) = .ok (.decided ref holds)) (offset : Nat) (w : Walk) :
    (compared tables bare p offset compare).run w = .ok (.constant holds) (w.visit bare ref) := by
  have first := run_path known bare w
  change EStateM.bind (path tables bare p) _ w = _
  rw [EStateM.bind, show path tables bare p w = _ from first]
  simp only [decided]
  rfl

end Step

end Walk

/-! ## Paths to a first step -/

namespace AttributePath

variable {tables : Dictionary} {p : AttributePath}

/-- **A path to a first step**: of the metric that is searched for, or of a series of a run. -/
inductive OfFirstStep (tables : Dictionary) (p : AttributePath) : Prop
  | own {metrics : String} (named : p.entity = "metric")
    (available : tables.get? "metrics" = some metrics) (field : p.field = "first_step")
    (bare : p.Bare)
  | series {runs name : String} {context : Option Dictionary} (named : p.entity = "run")
    (available : tables.get? "runs" = some runs) (field : p.field = "metrics")
    (sampled : p.Sampled name context none)

/-- **The paths that stand for a first step.** -/
theorem ofFirstStep_iff :
    p.OfFirstStep tables ↔ ∃ ref, p.operand tables = .ok (.step ref) := by
  constructor
  · intro first
    cases first with
    | @own metrics named available field bare =>
      have known : Entity.metric.kind? p.field = some .firstStep := by rw [field]; rfl
      have found : p.operandOf tables .metric metrics .firstStep =
          .ok (.step ⟨.metric, .table metrics⟩) := by
        simp only [operandOf, plain_of_bare bare, ok_bind]
        rfl
      exact ⟨_, operand_of_kind .metric named available known found⟩
    | @series runs name context named available field sampled =>
      have known : Entity.run.kind? p.field = some .metricSeries := by rw [field]; rfl
      have found : p.series runs = .ok (.ofSample ⟨.run, .ofSeries runs name context⟩ none) :=
        series_eq_ok.mpr ⟨name, context, none, sampled, rfl⟩
      exact ⟨_, operand_of_kind .run named available known found⟩
  · rintro ⟨ref, found⟩
    obtain ⟨entity, table, entry, named, available, listed, found⟩ := operand_eq_ok.mp found
    have kind := Entity.named_of_attribute? listed
    cases of_kind : entry.kind with
    | firstStep =>
      rw [of_kind] at kind found
      obtain ⟨rfl, field⟩ := kind
      obtain ⟨_, plain, _⟩ := bind_eq_ok.mp found
      exact .own named available field (within_plain.of_ok plain)
    | metricSeries =>
      rw [of_kind] at kind found
      obtain ⟨rfl, field⟩ := kind
      obtain ⟨name, context, column, sampled, shown⟩ := series_eq_ok.mp found
      cases column with
      | some column => cases shown
      | none => exact .series named available field sampled
    | column | flag | duration | keyed =>
      rw [of_kind] at found
      obtain ⟨_, _, found⟩ := bind_eq_ok.mp found
      cases found
    | experimentName | context =>
      rw [of_kind] at found
      obtain ⟨_, _, found⟩ := bind_eq_ok.mp found
      split at found <;> cases found

end AttributePath

/-! ## The law -/

namespace Filter

variable {tables : Dictionary} {op turned : Operator}

/-- The condition of a comparison of an attribute. -/
theorem condition_swapped (h : op.swapped = some turned) (tables : Dictionary) (l : Value)
    (p : AttributePath) (offset : Nat) :
    (comparison (.literal l) op (.attribute p) offset).condition tables =
      (comparison (.attribute p) turned (.literal l) offset).condition tables := by
  simp only [condition, comparisonCondition, operand?, ok_bind]
  cases p.operand tables with
  | error fault => rfl
  | ok found => simp only [ok_mapError, ok_bind, Condition.ofComparison_swapped h]

/-- **A comparison means the same with its operands swapped.** A constant in front of an attribute,
and the operator turned round with the constant behind it, have one condition or one mistake, and
the same result and the same state behind them in a walk from any state. A first step compared with
a whole number is decided as zero in its place. -/
theorem comparison_swapped (h : op.swapped = some turned) (tables : Dictionary)
    (p : AttributePath) (offset : Nat) :
    (∀ l : Value,
      (comparison (.literal l) op (.attribute p) offset).condition tables =
          (comparison (.attribute p) turned (.literal l) offset).condition tables ∧
        ∀ (bare : Bool) (w : Walk),
          (Walk.Step.comparison tables bare (.literal l) op (.attribute p) offset).run w =
            (Walk.Step.comparison tables bare (.attribute p) turned (.literal l) offset).run w) ∧
      (p.OfFirstStep tables → ∃ ref, ∀ (n : Int) (bare : Bool) (w : Walk),
        (Walk.Step.comparison tables bare (.literal (.int n)) op (.attribute p) offset).run w =
            .ok (.constant (op.relates n 0)) (w.visit bare ref) ∧
          (Walk.Step.comparison tables bare (.attribute p) op (.literal (.int n)) offset).run w =
            .ok (.constant (op.relates 0 n)) (w.visit bare ref)) := by
  refine ⟨fun l => ⟨condition_swapped h tables l p offset, fun bare w => ?_⟩, fun first => ?_⟩
  · rw [Walk.Step.comparison_literal_path, Walk.Step.comparison_path_literal]
    simp only [Condition.ofComparison_swapped h]
  · obtain ⟨ref, known⟩ := AttributePath.ofFirstStep_iff.mp first
    refine ⟨ref, fun n bare w => ⟨?_, ?_⟩⟩
    · rw [Walk.Step.comparison_literal_path]
      refine Walk.Step.run_compared_step known ?_ offset w
      have back := Operator.swapped_swapped h
      rw [Condition.ofComparison_swapped h, Condition.ofComparison_step back,
        Operator.relates_swapped h]
    · rw [Walk.Step.comparison_path_literal]
      exact Walk.Step.run_compared_step known (Condition.ofComparison_step h ref n) offset w

/-- `1 < first_step` and `first_step > 1` fail, `first_step < 1` holds, and all plan one join. -/
theorem comparison_swapped_lossFirstStep :
    let tables := Settings.standardTables
    let p : AttributePath := ⟨"run", "metrics", some ⟨"loss", none⟩, some "first_step", 4⟩
    Operator.less.swapped = some .greater ∧ p.OfFirstStep tables ∧ ∃ after,
      (Walk.Step.comparison tables false (.literal (.int 1)) .less (.attribute p) 0).run .start =
        .ok (.constant false) after ∧
      (Walk.Step.comparison tables false (.attribute p) .greater (.literal (.int 1)) 0).run .start =
        .ok (.constant false) after ∧
      (Walk.Step.comparison tables false (.attribute p) .less (.literal (.int 1)) 0).run .start =
        .ok (.constant true) after := by
  intro tables p
  have available : tables.get? "runs" = some "runs" := by decide
  have first : p.OfFirstStep tables :=
    .series rfl available rfl ⟨rfl, "first_step", rfl, by decide⟩
  have turned : Operator.less.swapped = some .greater := rfl
  obtain ⟨same, decided⟩ := comparison_swapped turned tables p 0
  obtain ⟨ref, holds⟩ := decided first
  refine ⟨turned, first, _, (holds 1 false .start).1, ?_, (holds 1 false .start).2⟩
  rw [← (same (.int 1)).2 false .start]
  exact (holds 1 false .start).1

end Filter

end RunFilter
