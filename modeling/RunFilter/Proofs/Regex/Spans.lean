import Mathlib.Data.Finset.Card
import Mathlib.Data.Nat.Bitwise
import RunFilter.Regex.Walk

/-!
# What a pattern matches

A pattern is searched for with sets of places, all ways through it at once. What it means is said
without sets: `Pattern.Spans` tells from which place to which place of a text a pattern leads.

**The law** (`Pattern.isFoundIn_iff`, `Pattern.startsIn_iff`): a search finds a pattern exactly if
the pattern leads from some place of the text to another, and a walk from the first place finds out
whether it leads from there.

A walk is right if it takes every set of places to the places that are reached from one of them
(`Goes`). The parts of a walk are right by the bits of their results. The closure is right because
each of its rounds but the last adds a place, and there are no more places than rounds.
-/

set_option autoImplicit false

namespace RunFilter.Regex

/-! ## The meaning of patterns -/

/-- The character in front of a place; `last` is the one in front of the text. -/
def charBefore (last : Option Char) (text : List Char) : Nat → Option Char
  | 0 => last
  | place + 1 => text[place]?

/-- One place is reached from another in so many steps. -/
def Rounds (R : Nat → Nat → Prop) : Nat → Nat → Nat → Prop
  | 0, i, j => i = j
  | count + 1, i, j => ∃ k, Rounds R count i k ∧ R k j

/-- **A pattern leads from one place of a text to another.** -/
def Pattern.Spans (text : List Char) : Pattern → Nat → Nat → Prop
  | .empty, i, j => i = j
  | .chars c, i, j => i + 1 = j ∧ ∃ a, text[i]? = some a ∧ c.set.holds a.toNat
  | .assertion a, i, j => i = j ∧ a.holds (charBefore none text i) text[i]?
  | .group _ p, i, j => p.Spans text i j
  | .seq p q, i, j => ∃ k, p.Spans text i k ∧ q.Spans text k j
  | .alt p q, i, j => p.Spans text i j ∨ q.Spans text i j
  | .times p least most _, i, j =>
    ∃ more, (∀ m ∈ most, more ≤ m - least) ∧ Rounds (p.Spans text) (least + more) i j

/-- A pattern matches at the beginning of a text. -/
def Pattern.MatchesAtStart (p : Pattern) (text : List Char) : Prop := ∃ j, p.Spans text 0 j

/-- A pattern matches somewhere in a text. -/
def Pattern.OccursIn (p : Pattern) (text : List Char) : Prop :=
  ∃ i j, i ≤ text.length ∧ p.Spans text i j

theorem rounds_head {R : Nat → Nat → Prop} {count i j : Nat} :
    Rounds R (count + 1) i j ↔ ∃ k, R i k ∧ Rounds R count k j := by
  induction count generalizing j with
  | zero => simp [Rounds]
  | succ count ih =>
    constructor
    · rintro ⟨l, rounds, last⟩
      obtain ⟨k, first, between⟩ := ih.mp rounds
      exact ⟨k, first, l, between, last⟩
    · rintro ⟨k, first, l, between, last⟩
      exact ⟨l, ih.mpr ⟨k, first, between⟩, last⟩

theorem rounds_add {R : Nat → Nat → Prop} {m n i j : Nat} :
    Rounds R (m + n) i j ↔ ∃ k, Rounds R m i k ∧ Rounds R n k j := by
  induction n generalizing j with
  | zero => simp [Rounds]
  | succ n ih =>
    rw [← Nat.add_assoc]
    simp only [Rounds, ih]
    constructor
    · rintro ⟨l, ⟨k, first, between⟩, last⟩
      exact ⟨k, first, l, between, last⟩
    · rintro ⟨k, first, l, between, last⟩
      exact ⟨l, ⟨k, first, between⟩, last⟩

/-! ## Places as bits -/

namespace Places

theorem testBit_toNat_add (b : Bool) (s : Places) :
    (b.toNat + 2 * s).testBit 0 = b ∧ ∀ i, (b.toNat + 2 * s).testBit (i + 1) = s.testBit i := by
  have half : (b.toNat + 2 * s) / 2 = s := by
    cases b <;> simp only [Bool.toNat_true, Bool.toNat_false] <;> omega
  refine ⟨?_, fun i => by rw [Nat.testBit_succ, half]⟩
  cases b <;> simp

theorem testBit_before (holds : Char → Bool) (text : List Char) (i : Nat) :
    (before holds text).testBit i ↔ ∃ c, text[i]? = some c ∧ holds c := by
  induction text generalizing i with
  | nil => simp [before]
  | cons c cs ih =>
    obtain ⟨first, rest⟩ := testBit_toNat_add (holds c) (before holds cs)
    rw [before]
    cases i with
    | zero => simp [first]
    | succ i => rw [rest, ih, List.getElem?_cons_succ]

theorem testBit_between (holds : Option Char → Option Char → Bool) (last : Option Char)
    (text : List Char) (i : Nat) :
    (between holds last text).testBit i ↔
      i ≤ text.length ∧ holds (charBefore last text i) text[i]? := by
  induction text generalizing last i with
  | nil =>
    rw [between]
    cases i with
    | zero => cases h : holds last none <;> simp [charBefore, h]
    | succ i => cases holds last none <;> simp [Nat.testBit_succ]
  | cons c cs ih =>
    obtain ⟨first, rest⟩ := testBit_toNat_add (holds last (some c)) (between holds (some c) cs)
    rw [between]
    cases i with
    | zero => simp [first, charBefore]
    | succ i =>
      rw [rest, ih, List.getElem?_cons_succ, List.length_cons, Nat.add_le_add_iff_right]
      cases i <;> rfl

theorem testBit_all (text : List Char) (i : Nat) :
    (all text).testBit i ↔ i ≤ text.length := by
  rw [all, testBit_between]
  exact and_iff_left rfl

theorem ne_zero_iff (s : Places) : s ≠ 0 ↔ ∃ i, s.testBit i := by
  constructor
  · intro some
    obtain ⟨i, bit, _⟩ := Nat.exists_most_significant_bit some
    exact ⟨i, bit⟩
  · rintro ⟨i, bit⟩ rfl
    simp at bit

/-- A set of places of a text of a given length. -/
def Within (length : Nat) (s : Places) : Prop := ∀ i, s.testBit i → i ≤ length

/-- The number of places that a set leaves out. -/
def missing (length : Nat) (s : Places) : Nat :=
  ((Finset.range (length + 1)).filter fun i => s.testBit i = false).card

theorem missing_le (length : Nat) (s : Places) : missing length s ≤ length + 1 :=
  (Finset.card_filter_le _ _).trans (Finset.card_range _).le

/-- A set that leaves out nothing has every place. -/
theorem testBit_of_missing {length : Nat} {s : Places} (none : missing length s = 0) {i : Nat}
    (le : i ≤ length) : s.testBit i := by
  have present := Finset.filter_eq_empty_iff.mp (Finset.card_eq_zero.mp none)
    (Finset.mem_range.mpr (Nat.lt_succ_of_le le))
  exact Bool.eq_true_of_not_eq_false present

/-- A wider set leaves out less. -/
theorem missing_lt {length : Nat} {s t : Places} (within : Within length (s ||| t))
    (wider : s ||| t ≠ s) : missing length (s ||| t) < missing length s := by
  obtain ⟨i, added, absent⟩ : ∃ i, (s ||| t).testBit i ∧ s.testBit i = false := by
    by_contra none
    push Not at none
    refine wider (Nat.eq_of_testBit_eq fun i => ?_)
    rw [Nat.testBit_or]
    cases old : s.testBit i with
    | true => rfl
    | false => simpa [old] using none i
  refine Finset.card_lt_card ⟨fun j mem => ?_, fun all => ?_⟩
  · obtain ⟨range, out⟩ := Finset.mem_filter.mp mem
    rw [Nat.testBit_or, Bool.or_eq_false_iff] at out
    exact Finset.mem_filter.mpr ⟨range, out.1⟩
  · have out := (Finset.mem_filter.mp (all (Finset.mem_filter.mpr
      ⟨Finset.mem_range.mpr (Nat.lt_succ_of_le (within i added)), absent⟩))).2
    exact Bool.eq_false_iff.mp out added

end Places

/-! ## Walks -/

open Places

/-- **A walk goes where a relation leads**, and stays in the text. -/
def Goes (length : Nat) (go : Places → Places) (R : Nat → Nat → Prop) : Prop :=
  ∀ s, Within length s → Within length (go s) ∧ ∀ j, (go s).testBit j ↔ ∃ i, s.testBit i ∧ R i j

namespace Goes

variable {length : Nat} {go go' : Places → Places} {R R' : Nat → Nat → Prop}

theorem congr (h : Goes length go R) (same : ∀ i j, i ≤ length → (R i j ↔ R' i j)) :
    Goes length go R' := by
  intro s within
  obtain ⟨kept, reached⟩ := h s within
  refine ⟨kept, fun j => (reached j).trans (exists_congr fun i => ?_)⟩
  exact and_congr_right fun start => same i j (within i start)

theorem stay (places : Places) : Goes length (· &&& places) fun i j => i = j ∧ places.testBit i := by
  intro s within
  constructor
  · intro i bit
    rw [Nat.testBit_and, Bool.and_eq_true] at bit
    exact within i bit.1
  · intro j
    rw [Nat.testBit_and, Bool.and_eq_true]
    constructor
    · rintro ⟨start, bit⟩
      exact ⟨j, start, rfl, bit⟩
    · rintro ⟨_, start, rfl, bit⟩
      exact ⟨start, bit⟩

theorem step {places : Places} (inside : ∀ i, places.testBit i → i < length) :
    Goes length (fun s => (s &&& places) <<< 1) fun i j => i + 1 = j ∧ places.testBit i := by
  intro s _
  have reached : ∀ j, ((s &&& places) <<< 1).testBit j ↔
      ∃ i, s.testBit i ∧ i + 1 = j ∧ places.testBit i := by
    intro j
    rw [Nat.testBit_shiftLeft, Nat.testBit_and]
    cases j with
    | zero => simp
    | succ j => simp
  refine ⟨fun j bit => ?_, reached⟩
  obtain ⟨i, _, rfl, ahead⟩ := (reached j).mp bit
  exact inside i ahead

theorem seq (h : Goes length go R) (h' : Goes length go' R') :
    Goes length (fun s => go' (go s)) fun i j => ∃ k, R i k ∧ R' k j := by
  intro s within
  obtain ⟨kept, reached⟩ := h s within
  obtain ⟨kept', reached'⟩ := h' (go s) kept
  refine ⟨kept', fun j => ?_⟩
  simp only [reached', reached]
  constructor
  · rintro ⟨k, ⟨i, start, first⟩, second⟩
    exact ⟨i, start, k, first, second⟩
  · rintro ⟨i, start, k, first, second⟩
    exact ⟨k, ⟨i, start, first⟩, second⟩

theorem alt (h : Goes length go R) (h' : Goes length go' R') :
    Goes length (fun s => go s ||| go' s) fun i j => R i j ∨ R' i j := by
  intro s within
  obtain ⟨kept, reached⟩ := h s within
  obtain ⟨kept', reached'⟩ := h' s within
  constructor
  · intro j bit
    rw [Nat.testBit_or, Bool.or_eq_true] at bit
    exact bit.elim (kept j) (kept' j)
  · intro j
    rw [Nat.testBit_or, Bool.or_eq_true, reached, reached', ← exists_or]
    exact exists_congr fun i => and_or_left.symm

theorem rest (length : Nat) : Goes length id Eq := by
  intro s within
  exact ⟨within, fun j => ⟨fun bit => ⟨j, bit, rfl⟩, fun ⟨_, bit, same⟩ => same ▸ bit⟩⟩

theorem iterate (h : Goes length go R) (count : Nat) :
    Goes length (Nat.repeat go count) (Rounds R count) := by
  induction count with
  | zero => exact rest length
  | succ count ih => exact ih.seq h

theorem atMost (h : Goes length go R) (count : Nat) :
    Goes length (Walk.atMost go count) fun i j => ∃ n ≤ count, Rounds R n i j := by
  induction count with
  | zero =>
    refine (rest length).congr fun i j _ => ⟨fun same => ⟨0, Nat.le_refl 0, same⟩, ?_⟩
    rintro ⟨n, le, rounds⟩
    cases Nat.le_zero.mp le
    exact rounds
  | succ count ih =>
    refine ((rest length).alt (h.seq ih)).congr fun i j _ => ?_
    constructor
    · rintro (rfl | ⟨k, first, n, le, rounds⟩)
      · exact ⟨0, Nat.zero_le _, rfl⟩
      · exact ⟨n + 1, Nat.succ_le_succ le, rounds_head.mpr ⟨k, first, rounds⟩⟩
    · rintro ⟨n, le, rounds⟩
      cases n with
      | zero => exact .inl rounds
      | succ n =>
        obtain ⟨k, first, rounds⟩ := rounds_head.mp rounds
        exact .inr ⟨k, first, n, Nat.le_of_succ_le_succ le, rounds⟩

/-- **From a closed set nothing else is reached.** -/
theorem testBit_iff_of_closed {s : Places} (closed : ∀ i j, s.testBit i → R i j → s.testBit j)
    (j : Nat) : s.testBit j ↔ ∃ i, s.testBit i ∧ ∃ n, Rounds R n i j := by
  refine ⟨fun bit => ⟨j, bit, 0, rfl⟩, ?_⟩
  rintro ⟨i, start, n, rounds⟩
  induction n generalizing j with
  | zero => exact rounds ▸ start
  | succ n ih =>
    obtain ⟨k, before, last⟩ := rounds
    exact closed k j (ih k before) last

/-- **A closure reaches all that is reached in any number of rounds**, if there are no more places
missing than rounds left. -/
theorem closure_spec (h : Goes length go R) {fuel : Nat} {s : Places} (within : Within length s)
    (enough : missing length s ≤ fuel) :
    Within length (Walk.closure go fuel s) ∧
      ∀ j, (Walk.closure go fuel s).testBit j ↔ ∃ i, s.testBit i ∧ ∃ n, Rounds R n i j := by
  induction fuel generalizing s with
  | zero =>
    obtain ⟨kept, reached⟩ := h s within
    refine ⟨within, testBit_iff_of_closed fun i j start leads => ?_⟩
    exact testBit_of_missing (Nat.le_zero.mp enough) (kept j ((reached j).mpr ⟨i, start, leads⟩))
  | succ fuel ih =>
    rw [Walk.closure]
    split
    next same =>
      refine ⟨within, testBit_iff_of_closed fun i j start leads => ?_⟩
      rw [← same, Nat.testBit_or, ((h s within).2 j).mpr ⟨i, start, leads⟩, Bool.or_true]
    next wider =>
      obtain ⟨within', reached⟩ := (rest length).alt h s within
      obtain ⟨kept, closed⟩ :=
        ih within' (Nat.le_of_lt_succ ((missing_lt within' wider).trans_le enough))
      refine ⟨kept, fun j => (closed j).trans ?_⟩
      constructor
      · rintro ⟨k, bit, n, rounds⟩
        obtain ⟨i, start, rfl | leads⟩ := (reached k).mp bit
        · exact ⟨i, start, n, rounds⟩
        · exact ⟨i, start, n + 1, rounds_head.mpr ⟨k, leads, rounds⟩⟩
      · rintro ⟨i, start, n, rounds⟩
        exact ⟨i, (reached i).mpr ⟨i, start, .inl rfl⟩, n, rounds⟩

theorem closure (h : Goes length go R) :
    Goes length (Walk.closure go (length + 1)) fun i j => ∃ n, Rounds R n i j :=
  fun s within => h.closure_spec within (missing_le length s)

end Goes

/-! ## Patterns -/

namespace Pattern

variable {text : List Char}

/-- **A pattern laid against a text goes where it leads.** -/
theorem goes_over (text : List Char) : ∀ p : Pattern,
    Goes text.length ((p.over text).reach text.length) (p.Spans text)
  | .empty => (Goes.stay _).congr fun i j le => by
    simp only [Spans, testBit_all, le, and_true]
  | .assertion a => (Goes.stay _).congr fun i j le => by
    simp only [Spans, testBit_between, le, true_and]
  | .chars c => by
    have inside : ∀ i, (Places.before (fun a => c.set.holds a.toNat) text).testBit i →
        i < text.length := by
      intro i bit
      obtain ⟨_, stored, _⟩ := (testBit_before _ _ _).mp bit
      exact (List.getElem?_eq_some_iff.mp stored).1
    refine (Goes.step inside).congr fun i j _ => ?_
    simp only [Spans, testBit_before]
  | .group _ p => goes_over text p
  | .seq p q => (goes_over text p).seq (goes_over text q)
  | .alt p q => (goes_over text p).alt (goes_over text q)
  | .times p least none _ => by
    refine (((goes_over text p).iterate least).seq (goes_over text p).closure).congr fun i j _ => ?_
    simp only [Spans, rounds_add, Option.mem_def, reduceCtorEq, false_implies, implies_true,
      true_and]
    constructor
    · rintro ⟨k, first, n, rounds⟩
      exact ⟨n, k, first, rounds⟩
    · rintro ⟨n, k, first, rounds⟩
      exact ⟨k, first, n, rounds⟩
  | .times p least (some most) _ => by
    refine (((goes_over text p).iterate least).seq
      ((goes_over text p).atMost (most - least))).congr fun i j _ => ?_
    simp only [Spans, rounds_add, Option.mem_def, Option.some.injEq, forall_eq']
    constructor
    · rintro ⟨k, first, n, le, rounds⟩
      exact ⟨n, le, k, first, rounds⟩
    · rintro ⟨n, le, k, first, rounds⟩
      exact ⟨k, first, n, le, rounds⟩

/-- **A search finds a pattern** exactly if it occurs in the text. -/
theorem isFoundIn_iff (p : Pattern) (text : List Char) : p.isFoundIn text ↔ p.OccursIn text := by
  obtain ⟨_, reached⟩ := goes_over text p (Places.all text) fun i => (testBit_all text i).mp
  rw [isFoundIn, bne_iff_ne, ne_zero_iff, OccursIn, exists_comm]
  exact exists_congr fun j => (reached j).trans (exists_congr fun i => by rw [testBit_all])

/-- **A walk from the first place** finds out whether a pattern matches there. -/
theorem startsIn_iff (p : Pattern) (text : List Char) :
    p.startsIn text ↔ p.MatchesAtStart text := by
  have first : ∀ i, Places.first.testBit i ↔ i = 0 := fun i =>
    Nat.testBit_one_eq_true_iff_self_eq_zero
  obtain ⟨_, reached⟩ := goes_over text p Places.first fun i bit =>
    ((first i).mp bit).le.trans (Nat.zero_le _)
  rw [startsIn, bne_iff_ne, ne_zero_iff]
  refine exists_congr fun j => (reached j).trans ?_
  simp only [first, exists_eq_left]

end Pattern

end RunFilter.Regex
