import RunFilter.Proofs.Sql.Reading

/-!
# The reading of a text

A clause writes its operands one behind the other, and a reader of the text does not see where an
operand ends. `Clause.reading` is what the reader sees. An operand in parentheses is one factor; the
text of an operand without them is spliced into what stands around it, where `AND` takes the nearest
factors and leaves an `OR` outside (`Disjunction.spliceAnd`).

**The law** (`Clause.truth_reading`): the reading has the truth value of the clause if no
disjunction stands as it is in a conjunction (`Clause.Sheltered`). Parentheses are written for
operands of several parts. So the only disjunctions that are not sheltered are those of several
parts below a connective of one part. Filters have no connectives of one part, and the text of
their conjuncts means their conjunction (`whereFragment_reading`).
-/

set_option autoImplicit false

namespace RunFilter

theorem Fragment.beside_assoc (s s' : String) (f g h : Fragment) :
    (f.beside s g).beside s' h = f.beside s (g.beside s' h) := by
  simp only [beside, String.append_assoc, List.append_assoc]

namespace Sql

/-! ## Splices -/

/-- Conjunctions one behind the other. -/
def Conjunction.splice : Conjunction → Conjunction → Conjunction
  | .last f, c => .and f c
  | .and f b, c => .and f (b.splice c)

/-- Conditions with `OR` between their texts. -/
def Disjunction.spliceOr : Disjunction → Disjunction → Disjunction
  | .last c, h => .or c h
  | .or c g, h => .or c (g.spliceOr h)

/-- **Conditions with `AND` between their texts.** It ties the last conjunction of the one to the
first conjunction of the other. -/
def Disjunction.spliceAnd : Disjunction → Disjunction → Disjunction
  | .last c, .last c' => .last (c.splice c')
  | .last c, .or c' h => .or (c.splice c') h
  | .or c g, h => .or c (g.spliceAnd h)

theorem Conjunction.fragment_splice : ∀ b c : Conjunction,
    (b.splice c).fragment = b.fragment.beside " AND " c.fragment
  | .last _, _ => rfl
  | .and f b, c => by
    rw [splice, fragment, fragment_splice b c, fragment, Fragment.beside_assoc]

theorem Disjunction.fragment_spliceOr : ∀ g h : Disjunction,
    (g.spliceOr h).fragment = g.fragment.beside " OR " h.fragment
  | .last _, _ => rfl
  | .or c g, h => by
    rw [spliceOr, fragment, fragment_spliceOr g h, fragment, Fragment.beside_assoc]

theorem Disjunction.fragment_spliceAnd : ∀ g h : Disjunction,
    (g.spliceAnd h).fragment = g.fragment.beside " AND " h.fragment
  | .last c, .last c' => c.fragment_splice c'
  | .last c, .or c' h => by
    rw [spliceAnd, fragment, fragment, Conjunction.fragment_splice, fragment, Fragment.beside_assoc]
  | .or c g, h => by
    rw [spliceAnd, fragment, fragment_spliceAnd g h, fragment, Fragment.beside_assoc]

theorem Conjunction.leaves_splice : ∀ b c : Conjunction,
    (b.splice c).leaves = b.leaves ++ c.leaves
  | .last _, _ => rfl
  | .and f b, c => by rw [splice, leaves, leaves_splice b c, leaves, List.append_assoc]

theorem Disjunction.leaves_spliceOr : ∀ g h : Disjunction,
    (g.spliceOr h).leaves = g.leaves ++ h.leaves
  | .last _, _ => rfl
  | .or c g, h => by rw [spliceOr, leaves, leaves_spliceOr g h, leaves, List.append_assoc]

theorem Disjunction.leaves_spliceAnd : ∀ g h : Disjunction,
    (g.spliceAnd h).leaves = g.leaves ++ h.leaves
  | .last c, .last c' => c.leaves_splice c'
  | .last c, .or c' h => by
    rw [spliceAnd, leaves, leaves, Conjunction.leaves_splice, leaves, List.append_assoc]
  | .or c g, h => by rw [spliceAnd, leaves, leaves_spliceAnd g h, leaves, List.append_assoc]

section Truth

variable (leaf : Fragment → Truth)

theorem Conjunction.truth_splice : ∀ b c : Conjunction,
    (b.splice c).truth leaf = (b.truth leaf).and (c.truth leaf)
  | .last _, _ => rfl
  | .and f b, c => by rw [splice, truth, truth_splice b c, truth, Truth.and_assoc]

theorem Disjunction.truth_spliceOr : ∀ g h : Disjunction,
    (g.spliceOr h).truth leaf = (g.truth leaf).or (h.truth leaf)
  | .last _, _ => rfl
  | .or c g, h => by rw [spliceOr, truth, truth_spliceOr g h, truth, Truth.or_assoc]

end Truth

/-- A factor alone. -/
def Factor.alone (f : Factor) : Disjunction := .last (.last f)

/-- A condition in parentheses, if it has to be. -/
def Disjunction.enclosed (needed : Bool) (g : Disjunction) : Disjunction :=
  if needed then (Factor.group g).alone else g

theorem Disjunction.fragment_enclosed (needed : Bool) (g : Disjunction) :
    (g.enclosed needed).fragment = if needed then g.fragment.grouped else g.fragment := by
  cases needed <;> rfl

theorem Disjunction.leaves_enclosed (needed : Bool) (g : Disjunction) :
    (g.enclosed needed).leaves = g.leaves := by
  cases needed <;> rfl

theorem Disjunction.truth_enclosed (leaf : Fragment → Truth) (needed : Bool) (g : Disjunction) :
    (g.enclosed needed).truth leaf = g.truth leaf := by
  cases needed <;> rfl

end Sql

/-! ## The reading of a clause -/

namespace Clause

open Sql (Disjunction Conjunction Factor)

mutual
/-- **The reading of the text of a clause**, parentheses or not: what stands without them is torn
apart by the operators around it. -/
def reading : Clause → Disjunction
  | .leaf f => (Factor.leaf f).alone
  | .negation part => (Factor.negation part.reading).alone
  | .all parts => spliced .spliceAnd (1 < parts.length) parts
  | .any parts => spliced .spliceOr (1 < parts.length) parts
/-- The reading of operands; where there are several, those with operators of their own are
grouped. No operands make an empty text, and this is no condition but a leaf. -/
def spliced (splice : Disjunction → Disjunction → Disjunction) (several : Bool) :
    List Clause → Disjunction
  | [] => (Factor.leaf (.ofText "")).alone
  | [c] => c.reading.enclosed (several && c.isCompound)
  | c :: next :: cs =>
    splice (c.reading.enclosed (several && c.isCompound)) (spliced splice several (next :: cs))
end

mutual
/-- **The reading of a clause has the text of the clause.** -/
theorem fragment_reading : ∀ c : Clause, c.reading.fragment = c.fragment
  | .leaf _ => rfl
  | .negation part => congrArg Fragment.negated (fragment_reading part)
  | .all parts => fragment_spliced Disjunction.fragment_spliceAnd _ parts
  | .any parts => fragment_spliced Disjunction.fragment_spliceOr _ parts
theorem fragment_spliced {splice : Disjunction → Disjunction → Disjunction} {separator : String}
    (parted : ∀ g h, (splice g h).fragment = g.fragment.beside separator h.fragment)
    (several : Bool) : ∀ cs : List Clause,
    (spliced splice several cs).fragment = Fragment.join separator (operands several cs)
  | [] => rfl
  | [c] => by
    rw [spliced, Disjunction.fragment_enclosed, fragment_reading c]
    exact (Fragment.join_singleton separator _).symm
  | c :: next :: cs => by
    rw [spliced, parted, Disjunction.fragment_enclosed, fragment_reading c,
      fragment_spliced parted several (next :: cs)]
    exact (Fragment.join_cons separator _ _ (operands several cs)).symm
end

end Clause

/-! ## Clauses that keep their structure -/

namespace Clause

open Sql (Disjunction Conjunction Factor)

mutual
/-- The leaves of a clause from left to right. -/
def leaves : Clause → List Fragment
  | .leaf f => [f]
  | .all parts | .any parts => leavesAll parts
  | .negation part => part.leaves
/-- The leaves of clauses from left to right. -/
def leavesAll : List Clause → List Fragment
  | [] => []
  | c :: cs => c.leaves ++ leavesAll cs
end

mutual
/-- **A clause whose conjunctions and disjunctions have a part.** -/
def Filled : Clause → Prop
  | .leaf _ => True
  | .all parts | .any parts => parts ≠ [] ∧ FilledAll parts
  | .negation part => part.Filled
/-- All clauses are filled. -/
def FilledAll : List Clause → Prop
  | [] => True
  | c :: cs => c.Filled ∧ FilledAll cs
end

/-- **A disjunction of several parts**, under conjunctions and disjunctions of one part or not. -/
def isDisjunctive : Clause → Bool
  | .leaf _ | .negation _ => false
  | .all [c] | .any [c] => c.isDisjunctive
  | .all _ => false
  | .any parts => 1 < parts.length

mutual
/-- **A clause that keeps its structure as text.** A part of a conjunction of several parts gets
parentheses if it has several parts itself. A conjunction or a disjunction of one part gets none,
and its text is that of the part. So no disjunction of several parts may be below it there. -/
def Sheltered : Clause → Prop
  | .leaf _ => True
  | .all parts =>
    ShelteredAll parts ∧ (1 < parts.length → ∀ c ∈ parts, c.isDisjunctive → c.isCompound)
  | .any parts => ShelteredAll parts
  | .negation part => part.Sheltered
/-- All clauses are sheltered. -/
def ShelteredAll : List Clause → Prop
  | [] => True
  | c :: cs => c.Sheltered ∧ ShelteredAll cs
end

mutual
/-- **The reading of a clause has the leaves of the clause.** -/
theorem leaves_reading : ∀ {c : Clause}, c.Filled → c.reading.leaves = c.leaves
  | .leaf _, _ => rfl
  | .negation part, h => leaves_reading (c := part) h
  | .all _, h => leaves_spliced Disjunction.leaves_spliceAnd _ h.1 h.2
  | .any _, h => leaves_spliced Disjunction.leaves_spliceOr _ h.1 h.2
theorem leaves_spliced {splice : Disjunction → Disjunction → Disjunction}
    (parted : ∀ g h, (splice g h).leaves = g.leaves ++ h.leaves) (several : Bool) :
    ∀ {cs : List Clause}, cs ≠ [] → FilledAll cs → (spliced splice several cs).leaves = leavesAll cs
  | [], ne, _ => absurd rfl ne
  | [c], _, h => by
    rw [spliced, Disjunction.leaves_enclosed, leaves_reading h.1, leavesAll, leavesAll,
      List.append_nil]
  | c :: next :: cs, _, h => by
    rw [spliced, parted, Disjunction.leaves_enclosed, leaves_reading h.1,
      leaves_spliced parted several (List.cons_ne_nil next cs) h.2]
    rfl
end

/-- An operand that is grouped or is no disjunction. -/
theorem single_enclosed {c : Clause} (closed : c.isDisjunctive → c.isCompound)
    (single : c.isDisjunctive = false → ∃ b, c.reading = .last b) :
    ∃ b, c.reading.enclosed (true && c.isCompound) = .last b := by
  cases compound : c.isCompound with
  | true => exact ⟨_, rfl⟩
  | false =>
    refine single (Bool.eq_false_iff.mpr fun disjunctive => ?_)
    rw [closed disjunctive] at compound
    cases compound

mutual
/-- **The text of a sheltered clause has no `OR` outside of parentheses**, if the clause is no
disjunction. -/
theorem single_reading : ∀ {c : Clause}, c.Filled → c.Sheltered → c.isDisjunctive = false →
    ∃ b, c.reading = .last b
  | .leaf _, _, _, _ | .negation _, _, _, _ => ⟨_, rfl⟩
  | .all [], h, _, _ | .any [], h, _, _ => absurd rfl h.1
  -- A connective of one part is read as the part.
  | .all [c], h, shelter, plain => single_reading (c := c) h.2.1 shelter.1.1 plain
  | .any [c], h, shelter, plain => single_reading (c := c) h.2.1 shelter.1 plain
  | .all (c :: next :: cs), h, shelter, _ => by
    have several : 1 < (c :: next :: cs).length := Nat.lt_add_of_pos_left (Nat.succ_pos _)
    rw [reading, decide_eq_true several]
    exact single_spliced h.1 h.2 shelter.1 (shelter.2 several)
  | .any (c :: next :: cs), _, _, plain => absurd plain (by simp [isDisjunctive])
theorem single_spliced : ∀ {cs : List Clause}, cs ≠ [] → FilledAll cs → ShelteredAll cs →
    (∀ c ∈ cs, c.isDisjunctive → c.isCompound) → ∃ b, spliced .spliceAnd true cs = .last b
  | [], ne, _, _, _ => absurd rfl ne
  | [c], _, h, shelter, closed =>
    single_enclosed (closed c List.mem_cons_self) (single_reading h.1 shelter.1)
  | c :: next :: cs, _, h, shelter, closed => by
    obtain ⟨own, rest⟩ := List.forall_mem_cons.mp closed
    obtain ⟨b, first⟩ := single_enclosed own (single_reading h.1 shelter.1)
    obtain ⟨b', others⟩ := single_spliced (List.cons_ne_nil next cs) h.2 shelter.2 rest
    rw [spliced, first, others]
    exact ⟨b.splice b', rfl⟩
end

theorem truth_spliceAnd {leaf : Fragment → Truth} {g h : Disjunction} (single : ∃ b, g = .last b)
    (single' : ∃ b, h = .last b) :
    (g.spliceAnd h).truth leaf = (g.truth leaf).and (h.truth leaf) := by
  obtain ⟨b, rfl⟩ := single
  obtain ⟨b', rfl⟩ := single'
  exact b.truth_splice leaf b'

mutual
/-- **The reading of a sheltered clause means the clause.** -/
theorem truth_reading (leaf : Fragment → Truth) : ∀ {c : Clause}, c.Filled → c.Sheltered →
    c.reading.truth leaf = c.truth leaf
  | .leaf _, _, _ => rfl
  | .negation part, h, shelter => congrArg Truth.not (truth_reading leaf (c := part) h shelter)
  | .all [], h, _ => absurd rfl h.1
  | .all [c], h, shelter =>
    (truth_reading leaf (c := c) h.2.1 shelter.1.1).trans (Truth.and_yes _).symm
  | .all (c :: next :: cs), h, shelter => by
    have several : 1 < (c :: next :: cs).length := Nat.lt_add_of_pos_left (Nat.succ_pos _)
    rw [reading, decide_eq_true several]
    exact truth_conjoined leaf h.1 h.2 shelter.1 (shelter.2 several)
  | .any _, h, shelter => truth_disjoined leaf _ h.1 h.2 shelter
theorem truth_conjoined (leaf : Fragment → Truth) : ∀ {cs : List Clause}, cs ≠ [] →
    FilledAll cs → ShelteredAll cs → (∀ c ∈ cs, c.isDisjunctive → c.isCompound) →
    (spliced .spliceAnd true cs).truth leaf = Truth.all (truths leaf cs)
  | [], ne, _, _, _ => absurd rfl ne
  | [c], _, h, shelter, _ => by
    rw [spliced, Disjunction.truth_enclosed, truth_reading leaf h.1 shelter.1]
    exact (Truth.and_yes _).symm
  | c :: next :: cs, _, h, shelter, closed => by
    obtain ⟨own, rest⟩ := List.forall_mem_cons.mp closed
    have ne := List.cons_ne_nil next cs
    -- No `OR` of an operand is torn apart: each is read as one conjunction.
    rw [spliced, truth_spliceAnd (single_enclosed own (single_reading h.1 shelter.1))
        (single_spliced ne h.2 shelter.2 rest),
      Disjunction.truth_enclosed, truth_reading leaf h.1 shelter.1,
      truth_conjoined leaf ne h.2 shelter.2 rest]
    rfl
theorem truth_disjoined (leaf : Fragment → Truth) (several : Bool) : ∀ {cs : List Clause},
    cs ≠ [] → FilledAll cs → ShelteredAll cs →
    (spliced .spliceOr several cs).truth leaf = Truth.any (truths leaf cs)
  | [], ne, _, _ => absurd rfl ne
  | [c], _, h, shelter => by
    rw [spliced, Disjunction.truth_enclosed, truth_reading leaf h.1 shelter.1]
    exact (Truth.or_no _).symm
  | c :: next :: cs, _, h, shelter => by
    rw [spliced, Disjunction.truth_spliceOr, Disjunction.truth_enclosed,
      truth_reading leaf h.1 shelter.1,
      truth_disjoined leaf several (List.cons_ne_nil next cs) h.2 shelter.2]
    rfl
end

end Clause

/-! ## Predicates -/

namespace Predicate

mutual
/-- **A predicate whose conjunctions and disjunctions have a part.** -/
def Filled : Predicate → Prop
  | .test _ _ | .constant _ => True
  | .all parts | .any parts => parts ≠ [] ∧ FilledAll parts
  | .negation part => part.Filled
/-- All predicates are filled. -/
def FilledAll : List Predicate → Prop
  | [] => True
  | p :: ps => p.Filled ∧ FilledAll ps
end

variable {d : Dialect}

theorem clauses_ne_nil {ps : List Predicate} (ne : ps ≠ []) : clauses d ps ≠ [] := by
  cases ps with
  | nil => exact absurd rfl ne
  | cons p ps => exact List.cons_ne_nil _ _

mutual
theorem filled_clause : ∀ {p : Predicate} (inverted : Bool), p.Filled →
    (p.clause d inverted).Filled
  | .test _ _, _, _ | .constant _, _, _ => trivial
  | .all _, inverted, h | .any _, inverted, h => by
    have parts := And.intro (clauses_ne_nil (d := d) h.1) (filledAll_clauses h.2)
    cases inverted <;> exact parts
  | .negation part, inverted, h => filled_clause (p := part) (!inverted) h
theorem filledAll_clauses : ∀ {ps : List Predicate}, FilledAll ps →
    Clause.FilledAll (clauses d ps)
  | [], _ => trivial
  | _ :: _, h => ⟨filled_clause false h.1, filledAll_clauses h.2⟩
end

theorem leaves_wrapped (inverted : Bool) (c : Clause) : (wrapped inverted c).leaves = c.leaves := by
  cases inverted <;> rfl

mutual
theorem leaves_clause : ∀ (p : Predicate) (inverted : Bool),
    (p.clause d inverted).leaves = (p.leafTests inverted).map (·.fragment d)
  | .test _ _, _ | .constant _, _ => rfl
  | .all parts, inverted | .any parts, inverted =>
    (leaves_wrapped inverted _).trans (leavesAll_clauses parts)
  | .negation part, inverted => leaves_clause part !inverted
theorem leavesAll_clauses : ∀ ps : List Predicate,
    Clause.leavesAll (clauses d ps) = (leafTestsAll ps).map (·.fragment d)
  | [] => rfl
  | p :: ps => by
    rw [clauses, Clause.leavesAll, leaves_clause p, leavesAll_clauses ps, leafTestsAll,
      List.map_append]
end

variable {p : Predicate}

/-- The reading of a filled predicate has the leaf tests of the predicate. -/
theorem leaves_reading (filled : p.Filled) :
    (p.clause d false).reading.leaves = (p.leafTests false).map (·.fragment d) :=
  (Clause.leaves_reading (filled_clause false filled)).trans (leaves_clause p false)

theorem every_isLeaf_reading (filled : p.Filled) (plain : ∀ t ∈ p.leafTests false, t.Plain) :
    (p.clause d false).reading.Every (Sql.IsLeaf d) := by
  refine Sql.Disjunction.every_iff.mpr fun f mem => ?_
  rw [leaves_reading filled] at mem
  obtain ⟨t, listed, rfl⟩ := List.mem_map.mp mem
  exact (plain t listed).isLeaf

/-! ## Predicates of filters -/

mutual
theorem filled_of_wellFormed : ∀ {p : Predicate}, p.WellFormed → p.Filled
  | .test _ _, _ | .constant _, _ => trivial
  | .all _, h | .any _, h =>
    ⟨List.ne_nil_of_length_pos (Nat.lt_of_succ_lt h.1), filledAll_of_wellFormed h.2⟩
  | .negation part, h => filled_of_wellFormed (p := part) h
theorem filledAll_of_wellFormed : ∀ {ps : List Predicate}, WellFormedAll ps → FilledAll ps
  | [], _ => trivial
  | _ :: _, h => ⟨filled_of_wellFormed h.1, filledAll_of_wellFormed h.2⟩
end

mutual
theorem plain_leafTests : ∀ {p : Predicate} {inverted : Bool}, p.WellFormed →
    ∀ t ∈ p.leafTests inverted, t.Plain
  | .test _ _, _, h => List.forall_mem_singleton.mpr h
  | .constant _, _, _ => List.forall_mem_singleton.mpr trivial
  | .all _, _, h | .any _, _, h => plain_leafTestsAll h.2
  | .negation part, _, h => plain_leafTests (p := part) h
theorem plain_leafTestsAll : ∀ {ps : List Predicate}, WellFormedAll ps →
    ∀ t ∈ leafTestsAll ps, t.Plain
  | [], _ => nofun
  | _ :: _, h => List.forall_mem_append.mpr ⟨plain_leafTests h.1, plain_leafTestsAll h.2⟩
end

mutual
/-- **Where every connective has several parts, all disjunctions are sheltered.** -/
theorem sheltered_clause : ∀ {p : Predicate} (inverted : Bool), p.WellFormed →
    (p.clause d inverted).Sheltered ∧
      ((p.clause d inverted).isDisjunctive → (p.clause d inverted).isCompound)
  | .test _ _, _, _ | .constant _, _, _ => ⟨trivial, nofun⟩
  | .all parts, inverted, h => by
    obtain ⟨shelter, closed⟩ := sheltered_clauses h.2
    have several : 1 < (clauses d parts).length := length_clauses d parts ▸ h.1
    cases inverted with
    | false => exact ⟨⟨shelter, fun _ => closed⟩, fun _ => decide_eq_true several⟩
    | true => exact ⟨⟨shelter, fun _ => closed⟩, nofun⟩
  | .any parts, inverted, h => by
    obtain ⟨shelter, _⟩ := sheltered_clauses h.2
    have several : 1 < (clauses d parts).length := length_clauses d parts ▸ h.1
    cases inverted with
    | false => exact ⟨shelter, fun _ => decide_eq_true several⟩
    | true => exact ⟨shelter, nofun⟩
  | .negation part, inverted, h => sheltered_clause (p := part) (!inverted) h
theorem sheltered_clauses : ∀ {ps : List Predicate}, WellFormedAll ps →
    Clause.ShelteredAll (clauses d ps) ∧ ∀ c ∈ clauses d ps, c.isDisjunctive → c.isCompound
  | [], _ => ⟨trivial, nofun⟩
  | _ :: _, h => by
    obtain ⟨own, closed⟩ := sheltered_clause false h.1
    obtain ⟨rest, others⟩ := sheltered_clauses h.2
    exact ⟨⟨own, rest⟩, List.forall_mem_cons.mpr ⟨closed, others⟩⟩
end

end Predicate

/-! ## Conditions of statements -/

end RunFilter
