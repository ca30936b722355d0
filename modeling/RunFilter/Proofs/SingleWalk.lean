import RunFilter.Proofs.Paired
import RunFilter.Proofs.References

/-!
# Resolution in one walk

Resolution checks a whole filter before it plans a join. This module does both in one walk from
left to right: an operand is checked and its join planned before the next one is looked at, and the
tests of a context wait as guards for the leaf that they belong to. A mistake ends the walk, with
whatever was planned by then.

**The law** (`paired_walk`): the walk and resolution fail with the same mistakes, from whatever
state the walk is in. From a state that walks reach between two leaves, where no guards wait and
the joins are faithful, they have the same predicate, joins, hoisted contexts and metrics.
-/

set_option autoImplicit false

namespace RunFilter

/-- **What a walk carries along.** -/
structure Walk where
  plan : Plan
  /-- Tests that wait for the leaf whose attribute asked for them. -/
  guards : List Predicate
  /-- Whether a metric was met. -/
  metric : Bool
  deriving Repr

namespace Walk

/-- Nothing planned and nothing met. -/
def start : Walk := ⟨.empty, [], false⟩

/-- **The walk behind an attribute**: its joins are planned, and the tests of its context are
hoisted or wait for the leaf. -/
def visit (bare : Bool) (w : Walk) (ref : Reference) : Walk :=
  let (placement, plan) := w.plan.place ref.origin
  let metric := w.metric || ref.isMetric
  match placement.context with
  | none => ⟨plan, w.guards, metric⟩
  | some index =>
    if bare then ⟨{ plan with hoisted := index :: plan.hoisted }, w.guards, metric⟩
    else ⟨plan, w.guards ++ plan.contextTestsAt index, metric⟩

/-- The walk behind an operand. -/
def pass (bare : Bool) (w : Walk) (found : Operand) : Walk :=
  match found.reference? with
  | some ref => w.visit bare ref
  | none => w

/-- **A leaf takes the guards that wait for it.** Its column is found in the joins so far. -/
def settle (w : Walk) (leaf : Condition) : Predicate × Walk :=
  let bareLeaf := leaf.readOff w.plan.joins true
  if w.guards.isEmpty then (bareLeaf, w)
  else (.all (w.guards ++ [bareLeaf]), { w with guards := [] })

section

variable (tables : Dictionary) (bare : Bool)

/-- An operand, and the walk behind it. -/
def operand (offset : Nat) (w : Walk) (f : Filter) : Except SyntaxError (Operand × Walk) := do
  let found ← f.operand? tables offset
  pure (found, w.pass bare found)

/-- The attribute that a function works on, and the walk behind it. -/
def subject (function : Function) (offset : Nat) (w : Walk) (f : Filter) :
    Except SyntaxError ((Reference × Part) × Walk) := do
  match ← w.operand tables bare offset f with
  | (.column ref part, w) => pure ((ref, part), w)
  | _ => throw ((Fault.subjectNotText function).at offset)

/-- A comparison. -/
def comparison (w : Walk) (left : Filter) (op : Operator) (right : Filter) (offset : Nat) :
    Except SyntaxError (Predicate × Walk) := do
  let (left, w) ← w.operand tables bare offset left
  let (right, w) ← w.operand tables bare offset right
  let leaf ← (Condition.ofComparison left op right).mapError (·.at offset)
  pure (w.settle leaf)

/-- A test of the beginning or the end of a text. -/
def affix (function : Function) (offset : Nat) (w : Walk) (receiver affix : Filter)
    (pattern : String → String) : Except SyntaxError (Predicate × Walk) := do
  let ((ref, part), w) ← w.subject tables bare function offset receiver
  match affix.text? with
  | some s => pure (w.settle (.test ref part (.like (pattern s) false)))
  | none => throw ((Fault.affixNotText function).at offset)

/-- A test by a regular expression. -/
def matching (function : Function) (offset : Nat) (w : Walk) (source subject : Filter)
    (pattern : String → String) : Except SyntaxError (Predicate × Walk) := do
  match source.text? with
  | none => throw ((Fault.patternNotText function).at offset)
  | some s =>
    let ((ref, part), w) ← w.subject tables bare function offset subject
    pure (w.settle (.test ref part (.matches (pattern s) false)))

/-- A call. -/
def call (function : Function) (offset : Nat) (w : Walk) :
    List Filter → Except SyntaxError (Predicate × Walk)
  | [first, second] =>
    match function with
    | .startsWith => w.affix tables bare function offset first second (· ++ "%")
    | .endsWith => w.affix tables bare function offset first second ("%" ++ ·)
    | .patternAtStart => w.matching tables bare function offset first second ("^" ++ ·)
    | .patternAnywhere => w.matching tables bare function offset first second id
  | _ => .error ((Fault.argumentCount function).at offset)

/-- An attribute on its own. -/
def flag (w : Walk) (path : AttributePath) : Except SyntaxError (Predicate × Walk) := do
  match ← w.operand tables bare path.offset (.attribute path) with
  | (.flag ref column value, w) =>
    pure (w.settle (.test ref (.column column) (.compare .equal (.text value))))
  | _ => throw ((Fault.notACondition path.dotted).at path.offset)

end

/-- The predicate of a connective. -/
def combine (op : Connective) (parts : List Predicate) : Except SyntaxError Predicate :=
  match op, parts with
  | .and, parts => .ok (.all parts)
  | .or, parts => .ok (.any parts)
  | .not, [part] => .ok (.negation part)
  | .not, _ => .error (Fault.negationOperands.at 0)

end Walk

namespace Filter

mutual
/-- **One walk over a filter**, which checks it and plans its joins; `bare` says that every
connective around the filter is `and`. -/
def walk (tables : Dictionary) (bare : Bool) (w : Walk) :
    Filter → Except SyntaxError (Predicate × Walk)
  | .boolean op operands => do
    let (parts, w) ← walkAll tables (bare && op = .and) w operands
    let whole ← Walk.combine op parts
    pure (whole, w)
  | .comparison left op right offset => w.comparison tables bare left op right offset
  | .call function arguments offset => w.call tables bare function offset arguments
  | .attribute path => w.flag tables bare path
  | .literal _ | .list _ => .error (Fault.constantAlone.at 0)
/-- One walk over filters from left to right. -/
def walkAll (tables : Dictionary) (bare : Bool) (w : Walk) :
    List Filter → Except SyntaxError (List Predicate × Walk)
  | [] => .ok ([], w)
  | f :: fs => do
    let (first, w) ← f.walk tables bare w
    let (rest, w) ← walkAll tables bare w fs
    pure (first :: rest, w)
end

end Filter

/-! ## Leaves -/

namespace Walk

/-- **A walk between two leaves**: no guards wait, and the joins are faithful. -/
structure Settled (w : Walk) : Prop where
  faithful : w.plan.joins.Faithful
  quiet : w.guards = []

/-- The walk that resolution of a condition leaves behind. -/
def resolved (bare : Bool) (w : Walk) (c : Condition) : Walk :=
  ⟨(c.resolve bare w.plan).2, [], w.metric || c.namesMetric⟩

/-- The walk that resolution of conditions leaves behind. -/
def resolvedAll (bare : Bool) (w : Walk) (cs : List Condition) : Walk :=
  ⟨(Condition.resolveAll bare w.plan cs).2, [], w.metric || Condition.anyNamesMetric cs⟩

/-- What the walk answers for a filter is what resolution answers for its condition. -/
def Resolves (bare : Bool) (w : Walk) (answer : Predicate × Walk) (c : Condition) : Prop :=
  w.Settled → answer = ((c.resolve bare w.plan).1, w.resolved bare c)

/-- What the walk answers for filters is what resolution answers for their conditions. -/
def ResolvesAll (bare : Bool) (w : Walk) (answer : List Predicate × Walk) (cs : List Condition) :
    Prop :=
  answer.1.length = cs.length ∧
    (w.Settled → answer = ((Condition.resolveAll bare w.plan cs).1, w.resolvedAll bare cs))

variable {tables : Dictionary} {bare : Bool} {w : Walk} {ref : Reference} {c : Condition}

/-- Resolution leaves a walk between two leaves. -/
theorem Settled.resolved (h : w.Settled) (bare : Bool) (c : Condition) :
    (w.resolved bare c).Settled := by
  refine ⟨?_, rfl⟩
  change (c.resolve bare w.plan).2.joins.Faithful
  rw [Condition.resolve_joins c bare w.plan h.faithful]
  exact h.faithful.planAll c.references

/-- A context that was selected has tests: the joins are faithful, and it is not empty. -/
theorem contextTestsAt_ne_nil {plan : Plan} (h : plan.joins.Faithful) {origin : Origin}
    {index : Nat} (selected : (plan.place origin).1.context = some index) :
    (plan.place origin).2.contextTestsAt index ≠ [] := by
  rw [(plan.place_spec origin).2.2.1, JoinTable.placement, JoinTable.contextIndex?] at selected
  obtain ⟨⟨signature, context⟩, asked, found⟩ := Option.bind_eq_some_iff.mp selected
  obtain ⟨_, _, _, filled, _⟩ := Origin.series_of_context? asked
  rw [Plan.contextTestsAt_eq (Plan.place_faithful h origin) asked found]
  intro none
  simp only [Dictionary.tests, List.map_eq_nil_iff] at none
  simp [Dictionary.isEmpty, none] at filled

/-- **A leaf behind its attribute is what resolution makes of it.** -/
theorem resolves_settle (leaf : Condition.LeafAt ref c) :
    w.Resolves bare ((w.visit bare ref).settle c) c := by
  rintro ⟨faithful, quiet⟩
  have table : (w.plan.place ref.origin).1.table =
      (w.plan.place ref.origin).2.joins.tableOf ref.origin := by
    rw [(w.plan.place_spec ref.origin).2.2.1, JoinTable.placement]
  have filled := @contextTestsAt_ne_nil w.plan faithful ref.origin
  cases leaf <;> cases selected : (w.plan.place ref.origin).1.context <;> cases bare <;>
    simp_all [visit, settle, resolved, Condition.resolve, Condition.readOff, Plan.tie,
      Condition.namesMetric]

/-! ## Operands and calls -/

/-- An operand is found in the walk as it is found alone. -/
theorem paired_operand (offset : Nat) (f : Filter) :
    Paired Eq (fun answer found => answer = (found, w.pass bare found))
      (w.operand tables bare offset f) (f.operand? tables offset) := by
  unfold operand
  cases f.operand? tables offset with
  | error e => exact .error rfl
  | ok found => exact .ok rfl

theorem paired_subject (function : Function) (offset : Nat) (f : Filter) :
    Paired Eq (fun answer found => answer = (found, w.visit bare found.1))
      (w.subject tables bare function offset f) (f.subject tables function offset) := by
  refine (paired_operand offset f).bind ?_
  rintro _ found rfl
  cases found with
  | column ref part => exact .ok rfl
  | flag | step | constant | list => exact .error rfl

theorem paired_affix (function : Function) (offset : Nat) (receiver affix : Filter)
    (pattern : String → String) :
    Paired Eq (w.Resolves bare) (w.affix tables bare function offset receiver affix pattern)
      (receiver.affixCondition tables function offset affix pattern) := by
  refine (paired_subject function offset receiver).bind ?_
  rintro _ ⟨ref, part⟩ rfl
  dsimp only
  cases affix.text? with
  | none => exact .error rfl
  | some s => exact .ok (resolves_settle (.test part _))

theorem paired_matching (function : Function) (offset : Nat) (source subject : Filter)
    (pattern : String → String) :
    Paired Eq (w.Resolves bare) (w.matching tables bare function offset source subject pattern)
      (source.patternCondition tables function offset subject pattern) := by
  unfold matching Filter.patternCondition
  cases source.text? with
  | none => exact .error rfl
  | some s =>
    refine (paired_subject function offset subject).bind ?_
    rintro _ ⟨ref, part⟩ rfl
    exact .ok (resolves_settle (.test part _))

theorem paired_call (function : Function) (offset : Nat) (arguments : List Filter) :
    Paired Eq (w.Resolves bare) (w.call tables bare function offset arguments)
      (Filter.callCondition tables function offset arguments) := by
  match arguments with
  | [] | [_] | _ :: _ :: _ :: _ => exact .error rfl
  | [first, second] =>
    cases function with
    | startsWith | endsWith => exact paired_affix ..
    | patternAtStart | patternAnywhere => exact paired_matching ..

/-- **A comparison.** Of its two operands one has an attribute, so only one moves the walk. -/
theorem paired_comparison (left : Filter) (op : Operator) (right : Filter) (offset : Nat) :
    Paired Eq (w.Resolves bare) (w.comparison tables bare left op right offset)
      (left.comparisonCondition tables op right offset) := by
  refine (paired_operand offset left).bind ?_
  rintro _ l rfl
  refine (paired_operand offset right).bind ?_
  rintro _ r rfl
  dsimp only
  cases answer : Condition.ofComparison l op r with
  | error fault => exact .error rfl
  | ok c =>
    obtain ⟨ref, leaf, one⟩ := Condition.leafAt_ofComparison answer
    have moved : (w.pass bare l).pass bare r = w.visit bare ref := by
      rcases one with ⟨own, none⟩ | ⟨none, own⟩ <;> simp [pass, own, none]
    rw [moved]
    change Paired Eq _ (.ok ((w.visit bare ref).settle c)) (.ok c)
    exact .ok (resolves_settle leaf)

theorem paired_flag (path : AttributePath) :
    Paired Eq (w.Resolves bare) (w.flag tables bare path)
      (Filter.attributeCondition tables path) := by
  refine (paired_operand path.offset (.attribute path)).bind ?_
  rintro _ found rfl
  cases found with
  | flag ref column value => exact .ok (resolves_settle (.test _ _))
  | column | step | constant | list => exact .error rfl

end Walk

/-! ## Filters -/

namespace Filter

variable {tables : Dictionary}

mutual
/-- **The walk and resolution make the same of a filter**, whatever the walk carries along. -/
theorem paired_walk : ∀ (f : Filter) (bare : Bool) (w : Walk),
    Paired Eq (w.Resolves bare) (f.walk tables bare w) (f.condition tables)
  | .boolean op operands, bare, w => by
    refine (paired_walkAll operands (bare && op = .and) w).bind ?_
    rintro ⟨parts, after⟩ cs ⟨same, resolves⟩
    cases op with
    | and =>
      refine .ok fun settled => ?_
      cases resolves settled
      simp [Condition.resolve, Walk.resolved, Walk.resolvedAll, Condition.namesMetric]
    | or =>
      refine .ok fun settled => ?_
      cases resolves settled
      simp [Condition.resolve, Walk.resolved, Walk.resolvedAll, Condition.namesMetric]
    | not =>
      match parts, cs, same with
      | [], [], _ => exact .error rfl
      | _ :: _ :: _, _ :: _ :: _, _ => exact .error rfl
      | [part], [c], _ =>
        refine .ok fun settled => ?_
        cases resolves settled
        simp [Condition.resolve, Condition.resolveAll, Walk.resolved, Walk.resolvedAll,
          Condition.namesMetric, Condition.anyNamesMetric]
  | .comparison left op right offset, bare, w => Walk.paired_comparison left op right offset
  | .call function arguments offset, bare, w => Walk.paired_call function offset arguments
  | .attribute path, bare, w => Walk.paired_flag path
  | .literal _, _, _ | .list _, _, _ => .error rfl
theorem paired_walkAll : ∀ (fs : List Filter) (bare : Bool) (w : Walk),
    Paired Eq (w.ResolvesAll bare) (walkAll tables bare w fs) (conditions tables fs)
  | [], bare, w => by
    refine .ok ⟨rfl, fun settled => ?_⟩
    simp [Condition.resolveAll, Walk.resolvedAll, Condition.anyNamesMetric, ← settled.quiet]
  | f :: fs, bare, w => by
    refine (paired_walk f bare w).bind ?_
    rintro ⟨first, after⟩ c resolves
    refine (paired_walkAll fs bare after).bind ?_
    rintro ⟨rest, last⟩ cs ⟨same, resolves'⟩
    refine .ok ⟨congrArg (· + 1) same, fun settled => ?_⟩
    cases resolves settled
    cases resolves' (settled.resolved bare c)
    simp [Condition.resolveAll, Walk.resolved, Walk.resolvedAll, Condition.anyNamesMetric,
      Bool.or_assoc]
end

end Filter

end RunFilter
