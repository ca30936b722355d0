import RunFilter.Proofs.Parsing.Attribute

/-!
# Reading filters

The reader of filters against the grammar.

**The law** (`parse_iff_derives`): a text is read as a filter if and only if its tokens derive that
filter with groups and `not` nested at most `maxNesting` deep. A text is read as no filter if and
only if it has no tokens.

The two directions follow the levels of the reader. Soundness is an induction on its fuel. So is
completeness, where the fuel has to cover the tokens: a level further in is behind a parenthesis,
which took one. What may follow a part of a level decides where the reader stops, and is written
down level by level (`endsExpression` and on).
-/

set_option autoImplicit false

namespace RunFilter

namespace Filter

open Lookahead

variable {la next last : Lookahead} {ts : List Token} {room : Nat}

/-! ## Operators -/

/-- What the reader of operators does with an operator of one token. -/
theorem one_eq_ok {s : Symbol} {op : Operator} {found : Option Operator}
    (token : la.token = .symbol s) :
    (do pure (some op, ← la.advance) : Except SyntaxError _) = .ok (found, next) ↔
      found = some op ∧ la.Passes [.symbol s] next := by
  simp only [bind_eq_ok, pure_eq_ok, Prod.mk.injEq, advance_eq_ok (sees_iff.mpr token)]
  constructor
  · rintro ⟨after, passed, rfl, rfl⟩
    exact ⟨rfl, passed⟩
  · rintro ⟨rfl, passed⟩
    exact ⟨next, passed, rfl, rfl⟩

/-- **What the reader of operators has passed.** -/
theorem operator_sound {found : Option Operator} (h : operator la = .ok (found, next)) :
    found = none ∧ next = la ∨ ∃ op spelling, found = some op ∧
      spelling ∈ Grammar.spellings op ∧ la.Passes (spelling.map .symbol) next := by
  have one : ∀ {s op}, la.token = .symbol s → [s] ∈ Grammar.spellings op →
      (do pure (some op, ← la.advance) : Except SyntaxError _) = .ok (found, next) →
      ∃ op spelling, found = some op ∧ spelling ∈ Grammar.spellings op ∧
        la.Passes (spelling.map .symbol) next := by
    intro s op token spelt h
    obtain ⟨rfl, passed⟩ := (one_eq_ok token).mp h
    exact ⟨op, [s], rfl, spelt, passed⟩
  unfold operator at h
  split at h
  next token => exact .inr (one token (by decide) h)
  next token => exact .inr (one token (by decide) h)
  next token => exact .inr (one token (by decide) h)
  next token => exact .inr (one token (by decide) h)
  next token => exact .inr (one token (by decide) h)
  next token => exact .inr (one token (by decide) h)
  next token => exact .inr (one token (by decide) h)
  next token =>
    right
    obtain ⟨mid, passed, h⟩ := bind_eq_ok.mp h
    have passed := (advance_eq_ok (sees_iff.mpr token)).mp passed
    split at h
    next seen =>
      obtain ⟨rfl, passed'⟩ := (one_eq_ok (sees_iff.mp seen)).mp h
      exact ⟨.notEqual, [.isWord, .notWord], rfl, by decide, passed.cons passed'⟩
    next =>
      cases h
      exact ⟨.equal, [.isWord], rfl, by decide, passed⟩
  next token =>
    right
    obtain ⟨mid, passed, h⟩ := bind_eq_ok.mp h
    have passed := (advance_eq_ok (sees_iff.mpr token)).mp passed
    split at h
    next seen =>
      obtain ⟨rfl, passed'⟩ := (one_eq_ok (sees_iff.mp seen)).mp h
      exact ⟨.notAmong, [.notWord, .inWord], rfl, by decide, passed.cons passed'⟩
    next => cases h
  next =>
    cases h
    exact .inl ⟨rfl, rfl⟩

/-- `is not` is one operator, so an `is` in front of `not` is not read as `is`. -/
theorem operator_complete {op : Operator} {spelling : List Symbol}
    (spelt : spelling ∈ Grammar.spellings op) (passes : la.Passes (spelling.map .symbol) next)
    (stop : next.token ≠ .symbol .notWord) : operator la = .ok (some op, next) := by
  have one : ∀ {s op}, la.Passes [.symbol s] next →
      (do pure (some op, ← la.advance) : Except SyntaxError _) = .ok (some op, next) :=
    fun h => (one_eq_ok h.token_eq).mpr ⟨rfl, h⟩
  unfold operator
  cases op with
  | equal =>
    simp only [Grammar.spellings, List.mem_cons, List.not_mem_nil, or_false] at spelt
    rcases spelt with rfl | rfl
    · rw [passes.token_eq]
      exact one passes
    · rw [passes.token_eq]
      have unseen : ¬ next.sees .notWord = true := fun seen => stop (sees_iff.mp seen)
      dsimp only
      rw [(advance_eq_ok passes.sees).mpr passes, ok_bind, if_neg unseen]
      rfl
  | notEqual =>
    simp only [Grammar.spellings, List.mem_cons, List.not_mem_nil, or_false] at spelt
    rcases spelt with rfl | rfl
    · rw [passes.token_eq]
      exact one passes
    · obtain ⟨mid, first, second⟩ := passes_cons.mp passes
      rw [passes.token_eq]
      dsimp only
      rw [(advance_eq_ok first.sees).mpr first, ok_bind, if_pos second.sees,
        (advance_eq_ok second.sees).mpr second]
      rfl
  | notAmong =>
    obtain rfl := List.mem_singleton.mp spelt
    obtain ⟨mid, first, second⟩ := passes_cons.mp passes
    rw [passes.token_eq]
    dsimp only
    rw [(advance_eq_ok first.sees).mpr first, ok_bind, if_pos second.sees,
      (advance_eq_ok second.sees).mpr second]
    rfl
  | less | greater | lessEqual | greaterEqual | among =>
    obtain rfl := List.mem_singleton.mp spelt
    rw [passes.token_eq]
    exact one passes

/-! ## Soundness -/

section

variable {expression : Nat → Reader Filter}

theorem sound_constant {n : Nat} :
    Sound constant id fun ts value => Grammar.Constant ts value n := by
  intro la last value h
  exact ⟨_, constant_eq_ok.mp h, .of value⟩

theorem sound_operand
    (sound : ∀ room, Sound (expression room) bare fun ts f => Grammar.Expression ts f room)
    (room : Nat) : Sound (operand expression room) bare fun ts f => Grammar.Operand ts f room := by
  intro la last f h
  unfold operand at h
  split at h
  next value token =>
    obtain ⟨⟨value, after⟩, read, h⟩ := bind_eq_ok.mp h
    cases h
    exact ⟨_, constant_eq_ok.mp read, .constant (.of value)⟩
  next token =>
    obtain ⟨next, opened, h⟩ := bind_eq_ok.mp h
    obtain ⟨⟨values, after⟩, read, h⟩ := bind_eq_ok.mp h
    cases h
    obtain ⟨ts, passes, derived⟩ := sound_constant.elements read
    rw [List.map_id] at derived
    have opened := (advance_eq_ok (sees_iff.mpr token)).mp opened
    exact ⟨_, opened.cons passes, .list derived⟩
  next token =>
    cases room with
    | zero => cases h
    | succ room =>
      obtain ⟨next, opened, h⟩ := bind_eq_ok.mp h
      obtain ⟨⟨inner, after⟩, read, h⟩ := bind_eq_ok.mp h
      obtain ⟨close, closed, h⟩ := bind_eq_ok.mp h
      cases h
      obtain ⟨ts, passes, derived⟩ := sound room read
      have opened := (advance_eq_ok (sees_iff.mpr token)).mp opened
      exact ⟨_, opened.cons (passes.append (expect_eq_ok.mp closed)), .group derived⟩
  next s token => exact sound_attributeOrCall (sound room) h
  next => cases h
  next => cases h

theorem chainWithin_sound
    (sound : Sound (operand expression room) bare fun ts f => Grammar.Operand ts f room)
    {fuel : Nat} {left : Filter} {offset : Nat} {fs : List Filter}
    (h : chainWithin expression room fuel left offset la = .ok (fs, last)) :
    ∃ ts, la.Passes ts last ∧ Grammar.Chain left.bare ts (fs.map bare) room := by
  induction fuel generalizing la left offset fs with
  | zero => cases h
  | succ fuel ih =>
    obtain ⟨⟨found, after⟩, op, behindOp⟩ := bind_eq_ok.mp h
    obtain ⟨rfl, rfl⟩ | ⟨op, spelling, rfl, spelt, passes⟩ := operator_sound op
    · cases behindOp
      exact ⟨[], .none _, .nil⟩
    · obtain ⟨⟨right, mid⟩, read, behindRight⟩ := bind_eq_ok.mp behindOp
      obtain ⟨⟨more, behind⟩, rest, answer⟩ := bind_eq_ok.mp behindRight
      cases answer
      obtain ⟨ts, passes', derived⟩ := sound read
      obtain ⟨us, passes'', chain⟩ := ih rest
      exact ⟨_, passes.append (passes'.append passes''), .cons spelt derived chain⟩

theorem bare_ofChain {first : Filter} {fs : List Filter} :
    (ofChain first fs).bare =
      if fs = [] then first.bare else Grammar.node .and (fs.map bare) := by
  unfold ofChain
  split
  · rfl
  · rfl
  next none one =>
    rw [if_neg fun eq => none eq, Grammar.node, bare, bareAll_eq_map]
    intro only eq
    obtain ⟨f, rfl, rfl⟩ := List.map_eq_singleton_iff.mp eq
    exact one f rfl

theorem sound_comparisons
    (sound : Sound (operand expression room) bare fun ts f => Grammar.Operand ts f room) :
    Sound (comparisons expression room) bare fun ts f => Grammar.Comparison ts f room := by
  intro la last f h
  obtain ⟨⟨first, after⟩, read, h⟩ := bind_eq_ok.mp h
  obtain ⟨⟨chain, behind⟩, rest, h⟩ := bind_eq_ok.mp h
  cases h
  obtain ⟨ts, passes, derived⟩ := sound read
  obtain ⟨us, passes', derived'⟩ := chainWithin_sound sound rest
  refine ⟨_, passes.append passes', ?_⟩
  rw [bare_ofChain]
  split
  next none =>
    subst none
    cases derived'
    rw [List.append_nil]
    exact .operand derived
  next some => exact .chain derived derived' (mt List.map_eq_nil_iff.mp some)

theorem sound_negation
    (sound : ∀ room, Sound (operand expression room) bare fun ts f => Grammar.Operand ts f room)
    (room : Nat) :
    Sound (negation expression room) bare fun ts f => Grammar.Negation ts f room := by
  induction room with
  | zero =>
    intro la last f h
    unfold negation at h
    split at h
    · cases h
    · obtain ⟨ts, passes, derived⟩ := sound_comparisons (sound 0) h
      exact ⟨ts, passes, .comparison derived⟩
  | succ room ih =>
    intro la last f h
    unfold negation at h
    split at h
    next seen =>
      obtain ⟨next, passed, h⟩ := bind_eq_ok.mp h
      obtain ⟨⟨inner, after⟩, read, h⟩ := bind_eq_ok.mp h
      cases h
      obtain ⟨ts, passes, derived⟩ := ih read
      exact ⟨_, ((advance_eq_ok seen).mp passed).cons passes, .not derived⟩
    next =>
      obtain ⟨ts, passes, derived⟩ := sound_comparisons (sound (room + 1)) h
      exact ⟨ts, passes, .comparison derived⟩

theorem bare_joined {op : Connective} {first : Filter} {more : List Filter} :
    bare (if more.isEmpty then first else .boolean op (first :: more)) =
      Grammar.node op (first.bare :: more.map bare) := by
  cases more with
  | nil => rfl
  | cons second more =>
    rw [List.isEmpty_cons, if_neg Bool.false_ne_true, bare, bareAll_eq_map]
    rfl

theorem sound_joined {word : Symbol} {op : Connective} {part : Reader Filter}
    {G : List Token → Filter → Nat → Prop} (sound : Sound part bare fun ts f => G ts f room) :
    Sound (joined word op part) bare fun ts f =>
      ∃ fs, Grammar.Separated word G ts fs room ∧ f = Grammar.node op fs := by
  intro la last f h
  obtain ⟨⟨first, after⟩, read, h⟩ := bind_eq_ok.mp h
  obtain ⟨⟨more, behind⟩, rest, h⟩ := bind_eq_ok.mp h
  cases h
  obtain ⟨ts, passes, derived⟩ := sound read
  obtain ⟨us, passes', separated⟩ := sound.further derived rest
  exact ⟨_, passes.append passes', _, separated, bare_joined⟩

end

/-- **What the reader of filters passes derives the filter that it answers.** -/
theorem sound_expressionWithin (fuel room : Nat) :
    Sound (expressionWithin fuel room) bare fun ts f => Grammar.Expression ts f room := by
  induction fuel generalizing room with
  | zero =>
    intro la last f h
    cases h
  | succ fuel ih =>
    have conjunction : Sound (joined .andWord .and (negation (expressionWithin fuel) room)) bare
        fun ts f => Grammar.Conjunction ts f room := by
      intro la last f h
      obtain ⟨ts, passes, fs, separated, eq⟩ :=
        sound_joined (sound_negation (sound_operand ih) room) h
      exact ⟨ts, passes, eq ▸ .of separated⟩
    intro la last f h
    obtain ⟨ts, passes, fs, separated, eq⟩ := sound_joined conjunction h
    exact ⟨ts, passes, eq ▸ .of separated⟩

/-! ## What may follow -/

/-- A token that may follow a filter. -/
def endsExpression (t : Token) : Bool :=
  t = .endOfText || t = .symbol .rightParen || t = .symbol .comma

/-- A token that may follow an operand of `or`. -/
def endsConjunction (t : Token) : Bool := endsExpression t || t = .symbol .orWord

/-- A token that may follow an operand of `and`. -/
def endsNegation (t : Token) : Bool := endsConjunction t || t = .symbol .andWord

/-- The first tokens of operators. -/
def operatorSigns : List Symbol :=
  [.equal, .notEqual, .less, .greater, .lessEqual, .greaterEqual, .inWord, .isWord, .notWord]

/-- A token that may follow an operand of a comparison. -/
def endsOperand (t : Token) : Bool := endsNegation t || operatorSigns.any fun s => t = .symbol s

theorem endsConjunction_of_ends {t : Token} (h : endsExpression t = true) :
    endsConjunction t = true ∧ t ≠ .symbol .orWord := by
  refine ⟨by rw [endsConjunction, h, Bool.true_or], ?_⟩
  rintro rfl
  cases h

theorem endsNegation_of_ends {t : Token} (h : endsConjunction t = true) :
    endsNegation t = true ∧ t ≠ .symbol .andWord := by
  refine ⟨by rw [endsNegation, h, Bool.true_or], ?_⟩
  rintro rfl
  cases h

theorem endsOperand_of_ends {t : Token} (h : endsNegation t = true) : endsOperand t = true := by
  rw [endsOperand, h, Bool.true_or]

theorem not_continuesAttribute_of_ends {t : Token} (h : endsOperand t = true) :
    continuesAttribute t = false := by
  rw [continuesAttribute_eq_false]
  refine ⟨?_, ?_, ?_⟩ <;>
  · rintro rfl
    cases h

/-- Behind a comparison no operator is in view. -/
theorem operator_of_ends (h : endsNegation la.token = true) : operator la = .ok (none, la) := by
  obtain ⟨token, offset, rest⟩ := la
  cases token with
  | literal value => cases h
  | name s => cases h
  | endOfText => rfl
  | symbol s => cases s <;> first | rfl | cases h

/-- Every spelling begins with the sign of an operator. -/
theorem spelling_starts {op : Operator} {spelling : List Symbol}
    (spelt : spelling ∈ Grammar.spellings op) :
    ∃ s more, spelling = s :: more ∧ endsOperand (.symbol s) = true := by
  have all : ((Grammar.spellings op).all fun spelling =>
      (spelling.head?.map fun s => endsOperand (.symbol s)).getD false) = true := by
    cases op <;> rfl
  have one := List.all_eq_true.mp all spelling spelt
  cases spelling with
  | nil => cases one
  | cons s more => exact ⟨s, more, rfl, one⟩

/-! ## Completeness -/

section

variable {expression : Nat → Reader Filter} {fuel : Nat}

/-- The constants of a list are read up to its bracket. -/
theorem constants_complete {values : List Value} {room : Nat}
    (derived : Grammar.Elements .rightBracket Grammar.Constant ts values room)
    (passes : la.Passes ts last) : elements .rightBracket constant la = .ok (values, last) := by
  have reads : Complete ts.length (fun _ => true) constant id
      fun ts value => Grammar.Constant ts value room := by
    intro la last ts value h _ passes _
    cases h
    exact ⟨value, constant_eq_ok.mpr passes, rfl⟩
  have starts : ∀ {ts value}, Grammar.Constant ts value room →
      ∃ t us, ts = t :: us ∧ t ≠ .symbol .rightBracket := by
    intro ts value h
    cases h
    exact ⟨_, _, rfl, Token.noConfusion⟩
  obtain ⟨xs, answered, rfl⟩ :=
    reads.elements (by decide) starts rfl rfl derived (Nat.le_refl _) passes rfl
  rw [answered, List.map_id]

theorem operand_complete
    (complete : ∀ room, Complete fuel endsExpression (expression room) bare
      fun ts f => Grammar.Expression ts f room) (room : Nat) :
    Complete (fuel + 1) endsOperand (operand expression room) bare
      fun ts f => Grammar.Operand ts f room := by
  intro la last ts f derived bounded passes stop
  have byName : (∃ s, la.token = .name s) →
      ∃ f', operand expression room la = .ok (f', last) ∧ f'.bare = f := by
    intro named
    obtain ⟨f', answered, eq⟩ := attributeOrCall_complete (complete room) rfl rfl derived bounded
      passes named (not_continuesAttribute_of_ends stop)
    obtain ⟨s, token⟩ := named
    refine ⟨f', ?_, eq⟩
    unfold operand
    rw [token]
    exact answered
  cases derived with
  | constant h =>
    cases h with
    | of value =>
      refine ⟨.literal _, ?_, rfl⟩
      unfold operand
      rw [passes.token_eq]
      dsimp only
      rw [constant_eq_ok.mpr passes]
      rfl
  | @list _ ts values h =>
    obtain ⟨next, opened, behind⟩ := passes_cons.mp passes
    refine ⟨.list values, ?_, rfl⟩
    unfold operand
    rw [passes.token_eq]
    dsimp only
    rw [(advance_eq_ok opened.sees).mpr opened, ok_bind, constants_complete h behind]
    rfl
  | @group n ts _ h =>
    obtain ⟨next, opened, behind⟩ := passes_cons.mp passes
    obtain ⟨mid, inner, closed⟩ := passes_append.mp behind
    simp only [List.length_cons, List.length_append, List.length_nil] at bounded
    have closes : endsExpression mid.token = true := by
      rw [closed.token_eq]
      rfl
    obtain ⟨f', answered, eq⟩ := complete n h (by omega) inner closes
    refine ⟨f', ?_, eq⟩
    unfold operand
    rw [passes.token_eq]
    dsimp only
    rw [(advance_eq_ok opened.sees).mpr opened, ok_bind, answered, ok_bind]
    dsimp only
    rw [expect_eq_ok.mpr closed]
    rfl
  | path h =>
    obtain ⟨s, us, rfl⟩ := h.starts
    exact byName ⟨s, passes.token_eq⟩
  | method h =>
    obtain ⟨s, us, rfl⟩ := h.starts
    exact byName ⟨s, passes.token_eq⟩
  | pattern => exact byName ⟨"re", passes.token_eq⟩

theorem endsOperand_of_chain {left : Filter} {fs : List Filter}
    (h : Grammar.Chain left ts fs room) (passes : la.Passes ts last)
    (stop : endsNegation last.token = true) : endsOperand la.token = true := by
  cases h with
  | nil =>
    obtain rfl := passes_nil.mp passes
    exact endsOperand_of_ends stop
  | cons spelt =>
    obtain ⟨s, more, rfl, ends⟩ := spelling_starts spelt
    rw [passes.token_eq]
    exact ends

theorem chainWithin_complete {bound : Nat}
    (complete : Complete bound endsOperand (operand expression room) bare
      fun ts f => Grammar.Operand ts f room) {left : Filter} {offset : Nat} {fs : List Filter}
    (h : Grammar.Chain left.bare ts fs room) (bounded : ts.length ≤ bound)
    {fuel : Nat} (enough : ts.length ≤ fuel + 1) (passes : la.Passes ts last)
    (stop : endsNegation last.token = true) :
    ∃ fs', chainWithin expression room (fuel + 1) left offset la = .ok (fs', last) ∧
      fs'.map bare = fs := by
  induction fuel generalizing la ts left offset fs with
  | zero =>
    cases h with
    | nil =>
      obtain rfl := passes_nil.mp passes
      refine ⟨[], ?_, rfl⟩
      rw [chainWithin, operator_of_ends stop]
      rfl
    | cons spelt derived =>
      obtain ⟨s, more, rfl, _⟩ := spelling_starts spelt
      obtain ⟨t, us, rfl, _⟩ := derived.starts
      simp only [List.length_append, List.length_cons, List.map_cons] at enough
      omega
  | succ fuel ih =>
    cases h with
    | nil =>
      obtain rfl := passes_nil.mp passes
      refine ⟨[], ?_, rfl⟩
      rw [chainWithin, operator_of_ends stop]
      rfl
    | @cons _ _ right op spelling ts us fs spelt derived chain =>
      obtain ⟨next, spelled, behind⟩ := passes_append.mp passes
      obtain ⟨mid, operands, rest⟩ := passes_append.mp behind
      have stops : next.token ≠ .symbol .notWord := by
        obtain ⟨t, us, rfl, starts⟩ := derived.starts
        rw [operands.token_eq]
        rintro rfl
        cases starts
      obtain ⟨s, more, rfl, _⟩ := spelling_starts spelt
      simp only [List.length_append, List.length_cons, List.map_cons] at enough bounded
      obtain ⟨right', answered, rfl⟩ := complete derived (by omega) operands
        (endsOperand_of_chain chain rest stop)
      obtain ⟨fs', answered', rfl⟩ :=
        @ih mid us right' next.offset fs chain (by omega) (by omega) rest
      refine ⟨.comparison left op right' offset :: fs', ?_, rfl⟩
      rw [chainWithin, operator_complete spelt spelled stops, ok_bind]
      dsimp only
      rw [answered, ok_bind]
      dsimp only
      rw [answered']
      rfl

theorem comparisons_complete {bound : Nat}
    (complete : Complete bound endsOperand (operand expression room) bare
      fun ts f => Grammar.Operand ts f room) :
    Complete bound endsNegation (comparisons expression room) bare
      fun ts f => Grammar.Comparison ts f room := by
  -- An operand alone is a chain without comparisons.
  have chain : ∀ {la last ts us f fs}, Grammar.Operand ts f room → Grammar.Chain f us fs room →
      (ts ++ us).length ≤ bound → la.Passes (ts ++ us) last → endsNegation last.token = true →
      ∃ first fs', comparisons expression room la = .ok (ofChain first fs', last) ∧
        first.bare = f ∧ fs'.map bare = fs := by
    intro la last ts us f fs derived derived' bounded passes stop
    obtain ⟨mid, front, behind⟩ := passes_append.mp passes
    rw [List.length_append] at bounded
    obtain ⟨first, answered, rfl⟩ :=
      complete derived (by omega) front (endsOperand_of_chain derived' behind stop)
    obtain ⟨fuel, size⟩ := Nat.exists_eq_add_of_le' mid.one_le_size
    obtain ⟨fs', answered', eq⟩ := @chainWithin_complete _ _ _ _ _ _ complete first la.offset _
      derived' (by omega) fuel (size ▸ behind.length_le) behind stop
    refine ⟨first, fs', ?_, rfl, eq⟩
    rw [comparisons, answered, ok_bind]
    dsimp only
    rw [size, answered']
    rfl
  intro la last ts f derived bounded passes stop
  cases derived with
  | operand h =>
    rw [← List.append_nil ts] at bounded passes
    obtain ⟨first, fs', answered, rfl, eq⟩ := chain h .nil bounded passes stop
    refine ⟨_, answered, ?_⟩
    rw [bare_ofChain, if_pos (List.map_eq_nil_iff.mp eq)]
  | chain h more ne =>
    obtain ⟨first, fs', answered, rfl, rfl⟩ := chain h more bounded passes stop
    refine ⟨_, answered, ?_⟩
    rw [bare_ofChain, if_neg (mt List.map_eq_nil_iff.mpr ne)]

theorem negation_complete {bound : Nat}
    (complete : ∀ room, Complete bound endsOperand (operand expression room) bare
      fun ts f => Grammar.Operand ts f room) (room : Nat) :
    Complete bound endsNegation (negation expression room) bare
      fun ts f => Grammar.Negation ts f room := by
  induction room with
  | zero =>
    intro la last ts f derived bounded passes stop
    cases derived with
    | comparison h =>
      have unseen : ¬ la.sees .notWord = true := by
        obtain ⟨t, us, rfl, starts⟩ := h.starts
        refine passes.not_sees ?_
        rintro rfl
        cases starts
      rw [negation, if_neg unseen]
      exact comparisons_complete (complete 0) h bounded passes stop
  | succ room ih =>
    intro la last ts f derived bounded passes stop
    cases derived with
    | not h =>
      obtain ⟨next, passed, behind⟩ := passes_cons.mp passes
      obtain ⟨f', answered, rfl⟩ := ih h (Nat.le_of_succ_le bounded) behind stop
      refine ⟨.boolean .not [f'], ?_, rfl⟩
      rw [negation, if_pos passed.sees]
      dsimp only
      rw [(advance_eq_ok passed.sees).mpr passed, ok_bind, answered]
      rfl
    | comparison h =>
      have unseen : ¬ la.sees .notWord = true := by
        obtain ⟨t, us, rfl, starts⟩ := h.starts
        refine passes.not_sees ?_
        rintro rfl
        cases starts
      rw [negation, if_neg unseen]
      exact comparisons_complete (complete (room + 1)) h bounded passes stop

theorem joined_complete {word : Symbol} {op : Connective} {part : Reader Filter}
    {G : List Token → Filter → Nat → Prop} {bound : Nat} {follow follow' : Token → Bool}
    (ne_nil : ∀ {ts f}, G ts f room → ts ≠ []) (words : follow (.symbol word) = true)
    (stop : ∀ {t}, follow' t = true → follow t = true ∧ t ≠ .symbol word)
    (complete : Complete bound follow part bare fun ts f => G ts f room) :
    Complete bound follow' (joined word op part) bare fun ts f =>
      ∃ fs, Grammar.Separated word G ts fs room ∧ f = Grammar.node op fs := by
  rintro la last ts f ⟨fs, separated, rfl⟩ bounded passes stops
  obtain ⟨first, mid, more, answered, answered', rfl⟩ :=
    complete.separated ne_nil words stop separated bounded passes stops
  refine ⟨_, ?_, bare_joined⟩
  rw [joined, answered, ok_bind]
  dsimp only
  rw [answered']
  rfl

end

/-- **Derivations are found** where the fuel covers their tokens. -/
theorem complete_expressionWithin (fuel room : Nat) :
    Complete fuel endsExpression (expressionWithin fuel room) bare
      fun ts f => Grammar.Expression ts f room := by
  induction fuel generalizing room with
  | zero =>
    intro la last ts f derived bounded
    obtain ⟨t, us, rfl, _⟩ := derived.starts
    cases bounded
  | succ fuel ih =>
    have parts := negation_complete (operand_complete ih) room
    have negation_ne : ∀ {ts f}, Grammar.Negation ts f room → ts ≠ [] := by
      rintro ts f h rfl
      obtain ⟨t, us, eq, _⟩ := h.starts
      cases eq
    have conjunction_ne : ∀ {ts f}, Grammar.Conjunction ts f room → ts ≠ [] := by
      rintro ts f h rfl
      obtain ⟨t, us, eq, _⟩ := h.starts
      cases eq
    have conjunctions : Complete (fuel + 1) endsConjunction
        (joined .andWord .and (negation (expressionWithin fuel) room)) bare
        fun ts f => Grammar.Conjunction ts f room := by
      intro la last ts f derived bounded passes stop
      cases derived with
      | of h =>
        exact joined_complete negation_ne rfl endsNegation_of_ends parts ⟨_, h, rfl⟩ bounded passes
          stop
    intro la last ts f derived bounded passes stop
    cases derived with
    | of h =>
      exact joined_complete conjunction_ne rfl endsConjunction_of_ends conjunctions ⟨_, h, rfl⟩
        bounded passes stop

/-! ## Texts -/

end Filter

namespace TokenStream

/-- **No end of the text stands inside a stream.** -/
def Proper : TokenStream → Prop
  | .finish _ | .broken _ => True
  | .cons token _ rest => token ≠ .endOfText ∧ rest.Proper

theorem proper_scanFrom (fuel : Nat) (c : Cursor) : (scanFrom fuel c).Proper := by
  induction fuel generalizing c with
  | zero =>
    unfold scanFrom
    dsimp only
    split <;> trivial
  | succ fuel ih =>
    unfold scanFrom
    dsimp only
    split
    · trivial
    · trivial
    · trivial
    next inside _ eq =>
      cases eq
      exact ⟨inside, ih _⟩

theorem proper_ofString (s : String) : (ofString s).Proper := proper_scanFrom _ _

/-- The tokens of a stream are those passed on the way to its end. -/
theorem toList_eq_ok {stream : TokenStream} (proper : stream.Proper) {ts : List Token} :
    stream.toList = .ok ts ↔ ∃ la last, stream.view = .ok la ∧ la.Passes ts last ∧
      last.token = .endOfText := by
  induction stream generalizing ts with
  | finish offset =>
    constructor
    · intro h
      cases h
      exact ⟨_, _, rfl, .none _, rfl⟩
    · rintro ⟨la, last, view, passes, ended⟩
      cases view
      cases passes with
      | none => rfl
      | token inside => exact absurd rfl inside
  | broken e => exact ⟨fun h => (nomatch h), fun ⟨_, _, view, _⟩ => (nomatch view)⟩
  | cons token offset rest ih =>
    obtain ⟨inside, proper⟩ := proper
    constructor
    · intro h
      cases tokens : rest.toList with
      | error e =>
        rw [toList, tokens] at h
        cases h
      | ok us =>
        rw [toList, tokens] at h
        cases h
        obtain ⟨la, last, view, passes, ended⟩ := (ih proper).mp tokens
        exact ⟨⟨token, offset, rest⟩, last, rfl, .token inside view passes, ended⟩
    · rintro ⟨la, last, view, passes, ended⟩
      cases view
      cases passes with
      | none => exact absurd ended inside
      | token _ view more => rw [toList, (ih proper).mpr ⟨_, _, view, more, ended⟩]; rfl

end TokenStream

theorem tokenize_eq_ok {s : String} {ts : List Token} :
    tokenize s = .ok (ts ++ [.endOfText]) ↔ ∃ la last, (TokenStream.ofString s).view = .ok la ∧
      la.Passes ts last ∧ last.token = .endOfText := by
  rw [← TokenStream.toList_eq_ok (TokenStream.proper_ofString s), tokenize]
  cases (TokenStream.ofString s).toList with
  | error e => exact ⟨fun h => (nomatch h), fun h => (nomatch h)⟩
  | ok us =>
    constructor
    · intro h
      exact congrArg _ (List.append_cancel_right (Except.ok.inj h))
    · intro h
      cases h
      rfl

namespace Filter

open Lookahead

theorem parse_eq_ok {s : String} {found : Option Filter} :
    parse s = .ok found ↔ ofTokens? (TokenStream.ofString s) = .ok found := by
  unfold parse
  cases ofTokens? (TokenStream.ofString s) with
  | error e => exact ⟨fun h => (nomatch h), fun h => (nomatch h)⟩
  | ok f => exact Iff.rfl

/-- What is read of a stream: nothing where it ends at once, or a filter that reaches its end. -/
theorem ofTokens?_eq_ok {stream : TokenStream} {found : Option Filter} :
    ofTokens? stream = .ok found ↔ ∃ la, stream.view = .ok la ∧
      (la.token = .endOfText ∧ found = none ∨ la.token ≠ .endOfText ∧ ∃ f last, found = some f ∧
        expressionWithin la.size maxNesting la = .ok (f, last) ∧ last.token = .endOfText) := by
  rw [ofTokens?, bind_eq_ok]
  refine exists_congr fun la => and_congr_right fun _ => ?_
  by_cases ended : la.token = .endOfText
  · rw [if_pos ended, pure_eq_ok]
    constructor
    · rintro rfl
      exact .inl ⟨ended, rfl⟩
    · rintro (⟨_, rfl⟩ | ⟨inside, _⟩)
      · rfl
      · exact absurd ended inside
  · rw [if_neg ended, bind_eq_ok]
    constructor
    · rintro ⟨⟨f, last⟩, read, h⟩
      dsimp only at h
      split at h
      next ended' =>
        cases h
        exact .inr ⟨ended, f, last, rfl, read, ended'⟩
      next => cases h
    · rintro (⟨ended', _⟩ | ⟨_, f, last, rfl, read, ended'⟩)
      · exact absurd ended' ended
      · refine ⟨(f, last), read, ?_⟩
        dsimp only
        rw [if_pos ended']
        rfl

/-- **Filters are read by their grammar.** A text without tokens is no filter, and the tokens of a
filter derive it within the nesting that the reader allows. -/
theorem parse_iff_derives (s : String) :
    (parse s = .ok none ↔ tokenize s = .ok [.endOfText]) ∧
      ∀ f, (parse s).map (·.map bare) = .ok (some f) ↔
        ∃ ts, tokenize s = .ok (ts ++ [.endOfText]) ∧ Grammar.Expression ts f maxNesting := by
  constructor
  · rw [parse_eq_ok, ofTokens?_eq_ok]
    constructor
    · rintro ⟨la, view, ⟨ended, _⟩ | ⟨_, f, last, none, _⟩⟩
      · exact (@tokenize_eq_ok s []).mpr ⟨la, la, view, .none la, ended⟩
      · cases none
    · intro h
      obtain ⟨la, last, view, passes, ended⟩ := (@tokenize_eq_ok s []).mp h
      obtain rfl := passes_nil.mp passes
      exact ⟨la, view, .inl ⟨ended, rfl⟩⟩
  · intro f
    constructor
    · intro h
      cases parsed : parse s with
      | error e =>
        rw [parsed] at h
        cases h
      | ok found =>
        rw [parsed] at h
        obtain ⟨la, view, ⟨_, rfl⟩ | ⟨_, f', last, rfl, read, ended⟩⟩ :=
          ofTokens?_eq_ok.mp (parse_eq_ok.mp parsed)
        · cases h
        · cases h
          obtain ⟨ts, passes, derived⟩ := sound_expressionWithin _ _ read
          exact ⟨ts, tokenize_eq_ok.mpr ⟨la, last, view, passes, ended⟩, derived⟩
    · rintro ⟨ts, tokens, derived⟩
      obtain ⟨la, last, view, passes, ended⟩ := tokenize_eq_ok.mp tokens
      have stop : endsExpression last.token = true := by
        rw [ended]
        rfl
      obtain ⟨f', read, rfl⟩ :=
        complete_expressionWithin la.size maxNesting derived passes.length_le passes stop
      have inside : la.token ≠ .endOfText := by
        obtain ⟨t, us, rfl, starts⟩ := derived.starts
        rw [passes.token_eq]
        rintro rfl
        cases starts
      have parsed : parse s = .ok (some f') := parse_eq_ok.mpr
        (ofTokens?_eq_ok.mpr ⟨la, view, .inr ⟨inside, f', last, rfl, read, ended⟩⟩)
      rw [parsed]
      rfl

/-! The bound on nesting is a limit of the reader and not of the language: deeper filters derive as
well, with a greater bound, and are refused. -/

/-- Tokens in groups, `depth` of them around each other. -/
def inGroups (depth : Nat) (ts : List Token) : List Token :=
  match depth with
  | 0 => ts
  | depth + 1 => .symbol .leftParen :: (inGroups depth ts ++ [.symbol .rightParen])

/-- A group around a filter derives the same filter. -/
theorem expression_inGroups {ts : List Token} {f : Filter} {n : Nat}
    (h : Grammar.Expression ts f n) (depth : Nat) :
    Grammar.Expression (inGroups depth ts) f (n + depth) := by
  induction depth with
  | zero => exact h
  | succ depth ih =>
    have group : Grammar.Operand (inGroups (depth + 1) ts) f (n + (depth + 1)) := .group ih
    exact .of (.one (.of (.one (.comparison (.operand group)))))

/-- `run.active` in more groups than may nest. -/
def deepGroups : List Char :=
  List.replicate 101 '(' ++ ['r', 'u', 'n', '.', 'a', 'c', 't', 'i', 'v', 'e'] ++
    List.replicate 101 ')'

/-- **A derivation alone does not make a filter**: the tokens of `deepGroups` derive one, and the
reader refuses the text. -/
theorem deepGroups_refused :
    (∃ ts f n, tokenize (String.ofList deepGroups) = .ok (ts ++ [.endOfText]) ∧
      Grammar.Expression ts f n) ∧
      ∀ found, parse (String.ofList deepGroups) ≠ .ok found := by
  constructor
  · have path : Grammar.Path [.name "run", .symbol .dot, .name "active"]
        ⟨"run", "active", none, none, 0⟩ := .of (by decide) .none .none
    have flag : Grammar.Expression [.name "run", .symbol .dot, .name "active"]
        (.attribute ⟨"run", "active", none, none, 0⟩) 0 :=
      .of (.one (.of (.one (.comparison (.operand (.path path))))))
    have tokens : (TokenStream.ofString (String.ofList deepGroups)).toList.toOption =
        some (inGroups 101 [.name "run", .symbol .dot, .name "active"]) := by
      rw [TokenStream.ofString, Cursor.ofString, String.toList_ofList]
      decide +kernel
    refine ⟨inGroups 101 _, _, _, ?_, expression_inGroups flag 101⟩
    rw [tokenize, toOption_eq_some.mp tokens]
    rfl
  · intro found parsed
    have refused :
        (ofTokens? (TokenStream.ofString (String.ofList deepGroups))).toBool = false := by
      rw [TokenStream.ofString, Cursor.ofString, String.toList_ofList]
      decide +kernel
    rw [parse_eq_ok.mp parsed] at refused
    cases refused

end Filter

end RunFilter
