import RunFilter.Regex

/-!
# Libraries of regular expressions

Filters leave regular expressions to a library. A source is compiled or refused, and what it is
compiled to is searched for in texts (`Engine`). Nothing else is known of a library where its
answers are only passed on.

What a library's manual says about the expressions is a meaning (`Engine.Meaning`). An expression
has alternatives, an alternative has items one behind the other, and an item takes what stands
between two places of a text. The manual says three things about this. A search is for a match
anywhere in a text. The sign `^` is met at the beginning of a text, and takes nothing. Items one
behind the other bind tighter than alternatives, so a sign in front of a source is an item of the
first alternative.

**The law** (`Engine.Meaning.isFoundIn_anchored`): a source with `^` in front is found in a text if
the first alternative of the source matches at the beginning, or another one occurs anywhere.
-/

set_option autoImplicit false

namespace RunFilter.Regex

/-- **A library of regular expressions.** -/
structure Engine (Expression Failure : Type) where
  compile : String → Except Failure Expression
  source : Expression → String
  isFoundIn : Expression → String → Bool
  source_of_compile {text : String} {expression : Expression} :
    compile text = .ok expression → source expression = text

namespace Engine

variable {Expression Failure : Type} (engine : Engine Expression Failure)

/-- One search: the source is compiled and looked for. -/
def search (source text : String) : Except Failure Bool :=
  (engine.compile source).map (engine.isFoundIn · text)

variable {engine} {source text : String} {expression : Expression}

theorem search_eq_true_iff (compiled : engine.compile source = .ok expression) :
    engine.search source text = .ok true ↔ engine.isFoundIn expression text := by
  rw [search, compiled, Except.map, Except.ok.injEq]

theorem search_of_error {failure : Failure} (refused : engine.compile source = .error failure) :
    engine.search source text = .error failure := by
  rw [search, refused]
  rfl

end Engine

/-! ## What expressions mean -/

/-- Items one behind the other take what stands between two places. -/
def TakesAll {Item : Type} (takes : Item → Nat → Nat → Prop) : List Item → Nat → Nat → Prop
  | [], i, j => i = j
  | x :: xs, i, j => ∃ k, takes x i k ∧ TakesAll takes xs k j

/-- **What the manual of a library says about its expressions.** -/
structure Engine.Meaning {Expression Failure : Type} (engine : Engine Expression Failure)
    (Item : Type) where
  /-- The items of the first alternative. -/
  first : Expression → List Item
  /-- The items of each other alternative. -/
  others : Expression → List (List Item)
  /-- An item takes what stands between two places of a text. A place is the number of characters
  in front of it. -/
  takes : String → Item → Nat → Nat → Prop
  /-- The item that the sign `^` stands for. -/
  start : Item
  /-- The sign is met at the beginning of a text, and takes nothing. -/
  takes_start {text : String} {i j : Nat} :
    i ≤ text.length → (takes text start i j ↔ i = 0 ∧ j = 0)
  /-- A search is for a match anywhere in a text. -/
  isFoundIn_iff {expression : Expression} {text : String} :
    engine.isFoundIn expression text ↔ ∃ items ∈ first expression :: others expression,
      ∃ i j, i ≤ text.length ∧ TakesAll (takes text) items i j
  /-- A sign in front of a source is an item of its first alternative. -/
  anchored {source : String} {expression behind : Expression} :
    engine.compile source = .ok expression → engine.compile ("^" ++ source) = .ok behind →
      first behind = start :: first expression ∧ others behind = others expression

namespace Engine.Meaning

variable {Expression Failure Item : Type} {engine : Engine Expression Failure}
  (meaning : engine.Meaning Item)

/-- The first alternative of an expression matches at the beginning of a text. -/
def FirstMatchesAtStart (expression : Expression) (text : String) : Prop :=
  ∃ j, TakesAll (meaning.takes text) (meaning.first expression) 0 j

/-- Another alternative of an expression occurs in a text. -/
def OtherOccursIn (expression : Expression) (text : String) : Prop :=
  ∃ items ∈ meaning.others expression, ∃ i j, i ≤ text.length ∧
    TakesAll (meaning.takes text) items i j

/-- **An expression matches at the beginning of a text**: one of its alternatives does. -/
def MatchesAtStart (expression : Expression) (text : String) : Prop :=
  ∃ items ∈ meaning.first expression :: meaning.others expression, ∃ j,
    TakesAll (meaning.takes text) items 0 j

variable {source text : String} {expression behind : Expression}

theorem matchesAtStart_iff : meaning.MatchesAtStart expression text ↔
    meaning.FirstMatchesAtStart expression text ∨
      ∃ items ∈ meaning.others expression, ∃ j, TakesAll (meaning.takes text) items 0 j := by
  simp only [MatchesAtStart, List.mem_cons, exists_eq_or_imp, FirstMatchesAtStart]

/-- **What is found behind `^`**: the first alternative at the beginning, the others anywhere. -/
theorem isFoundIn_anchored (valid : engine.compile source = .ok expression)
    (compiled : engine.compile ("^" ++ source) = .ok behind) :
    engine.isFoundIn behind text ↔
      meaning.FirstMatchesAtStart expression text ∨ meaning.OtherOccursIn expression text := by
  obtain ⟨first, others⟩ := meaning.anchored valid compiled
  simp only [meaning.isFoundIn_iff, first, others, List.mem_cons, exists_eq_or_imp]
  refine or_congr_left ?_
  constructor
  · rintro ⟨i, j, le, k, sign, rest⟩
    obtain ⟨rfl, rfl⟩ := (meaning.takes_start le).mp sign
    exact ⟨j, rest⟩
  · rintro ⟨j, taken⟩
    have sign := (meaning.takes_start (Nat.zero_le text.length)).mpr ⟨rfl, rfl⟩
    exact ⟨0, j, Nat.zero_le _, 0, sign, taken⟩

/-- What matches at the beginning is found behind `^`. -/
theorem isFoundIn_of_matchesAtStart (valid : engine.compile source = .ok expression)
    (compiled : engine.compile ("^" ++ source) = .ok behind)
    (h : meaning.MatchesAtStart expression text) : engine.isFoundIn behind text := by
  rw [meaning.isFoundIn_anchored valid compiled]
  rcases meaning.matchesAtStart_iff.mp h with own | ⟨items, mem, j, taken⟩
  · exact .inl own
  · exact .inr ⟨items, mem, 0, j, Nat.zero_le _, taken⟩

/-- **What is found behind `^` matches at the beginning** exactly if the other alternatives say
so. -/
theorem isFoundIn_anchored_iff (valid : engine.compile source = .ok expression)
    (compiled : engine.compile ("^" ++ source) = .ok behind) :
    (engine.isFoundIn behind text ↔ meaning.MatchesAtStart expression text) ↔
      (meaning.OtherOccursIn expression text → meaning.MatchesAtStart expression text) := by
  have found : engine.isFoundIn behind text ↔ _ := meaning.isFoundIn_anchored valid compiled
  constructor
  · exact fun same other => same.mp (found.mpr (.inr other))
  · refine fun others => ⟨fun h => ?_, meaning.isFoundIn_of_matchesAtStart valid compiled⟩
    rcases found.mp h with own | other
    · exact meaning.matchesAtStart_iff.mpr (.inl own)
    · exact others other

end Engine.Meaning

/-! ## The library of filters -/

/-- The regular expressions of filters. A text that is none is refused without more. -/
def engine : Engine Regex Unit where
  compile source := (ofString? source).elim (.error ()) .ok
  source := Regex.source
  isFoundIn := isFoundIn
  source_of_compile {text expression} compiled := by
    rw [ofString?] at compiled
    split at compiled
    case h_1 pattern reads =>
      obtain rfl : (⟨text, pattern, reads⟩ : Regex) = expression := by simpa using compiled
      rfl
    case h_2 => simp at compiled

theorem toOption_compile (source : String) :
    (engine.compile source).toOption = ofString? source := by
  dsimp only [engine]
  cases ofString? source <;> rfl

theorem toOption_search (source text : String) :
    (engine.search source text).toOption = search? source text := by
  rw [Engine.search, search?, ← toOption_compile]
  cases engine.compile source <;> rfl

end RunFilter.Regex
