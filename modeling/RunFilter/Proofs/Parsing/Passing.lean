import RunFilter.Proofs.Parsing.Derivation

/-!
# Readers and the tokens they pass

`la.Passes ts next` says that reading on from `la` passes exactly the tokens `ts`. A reader is
`Sound` for a relation if whatever it passes stands in the relation to what it answers, and
`Complete` if it answers wherever such tokens are ahead. The second needs to know what follows: a
reader looks one token further than it reads.

Both are proved here for the readers that all parts of the grammar share: single tokens, elements
between commas, and parts with a word between them. How long a reader may go on is counted in
tokens, and `Passes.length_le` is why the tokens ahead are always enough.
-/

set_option autoImplicit false

namespace RunFilter

/-! ## Results of two steps -/

theorem bind_eq_ok {ε α β : Type} {x : Except ε α} {f : α → Except ε β} {b : β} :
    x >>= f = .ok b ↔ ∃ a, x = .ok a ∧ f a = .ok b := by
  cases x with
  | error e => exact ⟨fun h => (nomatch h), fun ⟨_, h, _⟩ => (nomatch h)⟩
  | ok a => exact ⟨fun h => ⟨a, rfl, h⟩, fun ⟨_, h, h'⟩ => by cases h; exact h'⟩

theorem ok_bind {ε α β : Type} (a : α) (f : α → Except ε β) : Except.ok a >>= f = f a := rfl

theorem ok_mapError {ε ε' α : Type} (a : α) (f : ε → ε') :
    (Except.ok a : Except ε α).mapError f = .ok a := rfl

theorem error_mapError {ε ε' α : Type} (e : ε) (f : ε → ε') :
    (Except.error e : Except ε α).mapError f = .error (f e) := rfl

theorem pure_eq_ok {ε α : Type} {a b : α} : (pure a : Except ε α) = .ok b ↔ a = b :=
  ⟨fun h => Except.ok.inj h, fun h => congrArg _ h⟩

theorem toOption_eq_some {ε α : Type} {x : Except ε α} {a : α} :
    x.toOption = some a ↔ x = .ok a := by
  cases x with
  | error e => exact ⟨fun h => (nomatch h), fun h => (nomatch h)⟩
  | ok b => exact ⟨fun h => congrArg _ (Option.some.inj h), fun h => congrArg _ (Except.ok.inj h)⟩

/-- **A result within bounds**: an answer of one kind, or a mistake of another. -/
def Within {ε α : Type} (bad : ε → Prop) (good : α → Prop) : Except ε α → Prop
  | .ok a => good a
  | .error e => bad e

namespace Within

variable {ε α β : Type} {bad : ε → Prop} {good : α → Prop} {good' : β → Prop} {x : Except ε α}

/-- **One step after the other.** The second may use what the first has answered. -/
theorem bind {f : α → Except ε β} (h : Within bad good x)
    (next : ∀ a, x = .ok a → good a → Within bad good' (f a)) : Within bad good' (x >>= f) := by
  cases x with
  | error e => exact h
  | ok a => exact next a rfl h

/-- Wider bounds. -/
theorem mono {better : α → Prop} (h : Within bad good x) (weaker : ∀ a, good a → better a) :
    Within bad better x := by
  cases x with
  | error e => exact h
  | ok a => exact weaker a h

theorem mapError {ε' : Type} {worse : ε' → Prop} {better : α → Prop} {f : ε → ε'}
    (h : Within bad good x) (mistake : ∀ e, bad e → worse (f e))
    (answer : ∀ a, good a → better a) : Within worse better (x.mapError f) := by
  cases x with
  | error e => exact mistake e h
  | ok a => exact answer a h

theorem of_ok {a : α} (h : Within bad good x) (answer : x = .ok a) : good a := by
  rwa [answer] at h

theorem of_error {e : ε} (h : Within bad good x) (mistake : x = .error e) : bad e := by
  rwa [mistake] at h

end Within

namespace Lookahead

/-! ## Tokens passed -/

/-- **Reading on from a place passes tokens** and ends at another place. -/
inductive Passes : Lookahead → List Token → Lookahead → Prop
  | none (la : Lookahead) : Passes la [] la
  | token {la next last : Lookahead} {ts : List Token} (inside : la.token ≠ .endOfText)
      (h : la.advance = .ok next) (more : Passes next ts last) : Passes la (la.token :: ts) last

variable {la mid next last : Lookahead} {t : Token} {ts us : List Token}

theorem passes_nil : la.Passes [] last ↔ la = last :=
  ⟨fun h => by cases h; rfl, fun h => h ▸ .none la⟩

theorem passes_singleton :
    la.Passes [t] last ↔ la.token = t ∧ t ≠ .endOfText ∧ la.advance = .ok last := by
  constructor
  · intro h
    cases h with
    | token inside h more =>
      cases more
      exact ⟨rfl, inside, h⟩
  · rintro ⟨rfl, inside, h⟩
    exact .token inside h (.none last)

theorem passes_cons :
    la.Passes (t :: ts) last ↔ ∃ next, la.Passes [t] next ∧ next.Passes ts last := by
  constructor
  · intro h
    cases h with
    | token inside h more => exact ⟨_, .token inside h (.none _), more⟩
  · rintro ⟨next, one, more⟩
    obtain ⟨rfl, inside, h⟩ := passes_singleton.mp one
    exact .token inside h more

theorem passes_append :
    la.Passes (ts ++ us) last ↔ ∃ mid, la.Passes ts mid ∧ mid.Passes us last := by
  induction ts generalizing la with
  | nil =>
    simp only [List.nil_append, passes_nil]
    exact ⟨fun h => ⟨la, rfl, h⟩, fun ⟨_, eq, h⟩ => eq ▸ h⟩
  | cons t ts ih =>
    rw [List.cons_append]
    constructor
    · intro h
      obtain ⟨next, one, more⟩ := passes_cons.mp h
      obtain ⟨mid, more, h⟩ := ih.mp more
      exact ⟨mid, passes_cons.mpr ⟨next, one, more⟩, h⟩
    · rintro ⟨mid, front, h⟩
      obtain ⟨next, one, more⟩ := passes_cons.mp front
      exact passes_cons.mpr ⟨next, one, ih.mpr ⟨mid, more, h⟩⟩

theorem Passes.append (h : la.Passes ts mid) (h' : mid.Passes us last) :
    la.Passes (ts ++ us) last := passes_append.mpr ⟨mid, h, h'⟩

theorem Passes.cons (h : la.Passes [t] mid) (h' : mid.Passes ts last) :
    la.Passes (t :: ts) last := passes_cons.mpr ⟨mid, h, h'⟩

/-- The first token passed is the one in view. -/
theorem Passes.token_eq (h : la.Passes (t :: ts) last) : la.token = t := by
  cases h
  rfl

/-- **No more tokens are passed than are ahead.** -/
theorem Passes.length_le (h : la.Passes ts last) : ts.length ≤ la.size := by
  induction h with
  | none la => exact Nat.zero_le _
  | @token la next last ts inside h more ih =>
    obtain ⟨token, offset, rest⟩ := la
    cases rest with
    | finish offset =>
      cases h
      cases more with
      | none => exact Nat.le_refl 1
      | token inside _ _ => exact absurd rfl inside
    | broken e => cases h
    | cons next offset rest =>
      cases h
      exact Nat.succ_le_succ ih

theorem one_le_size (la : Lookahead) : 1 ≤ la.size := Nat.le_add_left 1 la.rest.size

/-! ## Single tokens -/

theorem sees_iff {s : Symbol} : la.sees s = true ↔ la.token = .symbol s := decide_eq_true_iff

theorem Passes.sees {s : Symbol} (h : la.Passes (.symbol s :: ts) last) : la.sees s = true :=
  sees_iff.mpr h.token_eq

theorem Passes.not_sees (h : la.Passes (t :: ts) last) {s : Symbol} (ne : t ≠ .symbol s) :
    ¬ la.sees s = true := fun seen => ne (h.token_eq.symm.trans (sees_iff.mp seen))

theorem advance_eq_ok {s : Symbol} (seen : la.sees s = true) :
    la.advance = .ok next ↔ la.Passes [.symbol s] next := by
  have token := sees_iff.mp seen
  rw [passes_singleton]
  exact ⟨fun h => ⟨token, Token.noConfusion, h⟩, fun h => h.2.2⟩

theorem expect_eq_ok {s : Symbol} : la.expect s = .ok next ↔ la.Passes [.symbol s] next := by
  unfold expect
  split
  next seen => exact advance_eq_ok seen
  next unseen =>
    refine ⟨fun h => (nomatch h), fun h => absurd h.sees unseen⟩

theorem name_eq_ok {s : String} : name la = .ok (s, next) ↔ la.Passes [.name s] next := by
  unfold name
  split
  next s' token =>
    simp only [bind_eq_ok, pure_eq_ok, passes_singleton, token, Prod.mk.injEq, Token.name.injEq]
    constructor
    · rintro ⟨after, h, rfl, rfl⟩
      exact ⟨rfl, Token.noConfusion, h⟩
    · rintro ⟨rfl, _, h⟩
      exact ⟨next, h, rfl, rfl⟩
  next other => exact ⟨fun h => (nomatch h), fun h => absurd h.token_eq (other s)⟩

theorem constant_eq_ok {value : Value} :
    constant la = .ok (value, next) ↔ la.Passes [.literal value] next := by
  unfold constant
  split
  next value' token =>
    simp only [bind_eq_ok, pure_eq_ok, passes_singleton, token, Prod.mk.injEq,
      Token.literal.injEq]
    constructor
    · rintro ⟨after, h, rfl, rfl⟩
      exact ⟨rfl, Token.noConfusion, h⟩
    · rintro ⟨rfl, _, h⟩
      exact ⟨next, h, rfl, rfl⟩
  next other => exact ⟨fun h => (nomatch h), fun h => absurd h.token_eq (other value)⟩

theorem text_eq_ok {otherwise : Token → SyntaxError} {s : String} :
    text otherwise la = .ok (s, next) ↔ la.Passes [.literal (.text s)] next := by
  unfold text
  split
  next s' token =>
    simp only [bind_eq_ok, pure_eq_ok, passes_singleton, token, Prod.mk.injEq,
      Token.literal.injEq, Value.text.injEq]
    constructor
    · rintro ⟨after, h, rfl, rfl⟩
      exact ⟨rfl, Token.noConfusion, h⟩
    · rintro ⟨rfl, _, h⟩
      exact ⟨next, h, rfl, rfl⟩
  next other => exact ⟨fun h => (nomatch h), fun h => absurd h.token_eq (other s)⟩

/-! ## Soundness and completeness -/

section

variable {α β : Type} {read : Reader α} {f : α → β} {G : List Token → β → Prop}

/-- **Whatever a reader passes stands in the relation to what it answers**, seen through `f`. -/
def Sound (read : Reader α) (f : α → β) (G : List Token → β → Prop) : Prop :=
  ∀ ⦃la last : Lookahead⦄ ⦃x : α⦄, read la = .ok (x, last) → ∃ ts, la.Passes ts last ∧ G ts (f x)

/-- **A reader answers wherever tokens of the relation are ahead**, at most `bound` of them, and a
token that `follow` admits behind them. -/
def Complete (bound : Nat) (follow : Token → Bool) (read : Reader α) (f : α → β)
    (G : List Token → β → Prop) : Prop :=
  ∀ ⦃la last : Lookahead⦄ ⦃ts : List Token⦄ ⦃y : β⦄, G ts y → ts.length ≤ bound →
    la.Passes ts last → follow last.token = true → ∃ x, read la = .ok (x, last) ∧ f x = y

/-! ## Elements -/

variable {close : Symbol} {element : List Token → β → Nat → Prop} {n : Nat}

theorem elementsWithin_of_sees {fuel : Nat} {xs : List α} (seen : la.sees close = true)
    (h : elementsWithin close read fuel la = .ok (xs, last)) :
    xs = [] ∧ la.Passes [.symbol close] last := by
  cases fuel with
  | zero => cases h
  | succ fuel =>
    simp only [elementsWithin, if_pos seen, bind_eq_ok, pure_eq_ok, Prod.mk.injEq] at h
    obtain ⟨_, h, rfl, rfl⟩ := h
    exact ⟨rfl, (advance_eq_ok seen).mp h⟩

theorem Sound.elements (sound : Sound read f fun ts y => element ts y n) :
    Sound (elements close read) (List.map f)
      fun ts ys => Grammar.Elements close element ts ys n := by
  have within : ∀ fuel, Sound (elementsWithin close read fuel) (List.map f)
      fun ts ys => Grammar.Elements close element ts ys n := by
    intro fuel
    induction fuel with
    | zero =>
      intro la last xs h
      cases h
    | succ fuel ih =>
      intro la last xs h
      by_cases seen : la.sees close = true
      · obtain ⟨rfl, passes⟩ := elementsWithin_of_sees seen h
        exact ⟨_, passes, .none⟩
      · simp only [elementsWithin, if_neg seen] at h
        obtain ⟨⟨x, mid⟩, one, h⟩ := bind_eq_ok.mp h
        obtain ⟨ts, passes, derived⟩ := sound one
        by_cases closed : mid.sees close = true
        · simp only [if_pos closed, bind_eq_ok, pure_eq_ok, Prod.exists, Prod.mk.injEq] at h
          obtain ⟨_, rfl, more, last, rest, rfl, rfl⟩ := h
          obtain ⟨rfl, ending⟩ := elementsWithin_of_sees closed rest
          exact ⟨_, passes.append ending, .last derived⟩
        · simp only [if_neg closed, bind_eq_ok, pure_eq_ok, Prod.exists, Prod.mk.injEq] at h
          obtain ⟨next, comma, more, last, rest, rfl, rfl⟩ := h
          obtain ⟨us, passes', derived'⟩ := ih rest
          exact ⟨_, passes.append ((expect_eq_ok.mp comma).cons passes'), .comma derived derived'⟩
  intro la last xs h
  exact within la.size h

theorem elementsWithin_close {fuel : Nat} (h : la.Passes [.symbol close] last) :
    elementsWithin close read (fuel + 1) la = .ok ([], last) := by
  have seen : la.sees close = true := h.sees
  simp only [elementsWithin, if_pos seen, (advance_eq_ok seen).mpr h]
  rfl

/-- Elements are found with as much fuel as there are tokens; the first token of an element is not
the end. -/
theorem Complete.elementsWithin {bound : Nat} {follow : Token → Bool} (ne_comma : close ≠ .comma)
    (starts : ∀ {ts y}, element ts y n → ∃ t us, ts = t :: us ∧ t ≠ .symbol close)
    (closes : follow (.symbol close) = true) (commas : follow (.symbol .comma) = true)
    (complete : Complete bound follow read f fun ts y => element ts y n) {ys : List β}
    (derived : Grammar.Elements close element ts ys n) (bounded : ts.length ≤ bound) {fuel : Nat}
    (enough : ts.length ≤ fuel) (passes : la.Passes ts last) :
    ∃ xs, elementsWithin close read fuel la = .ok (xs, last) ∧ xs.map f = ys := by
  induction derived generalizing fuel la with
  | none =>
    obtain ⟨fuel, rfl⟩ := Nat.exists_eq_add_of_le' enough
    exact ⟨[], elementsWithin_close passes, rfl⟩
  | @last n ts y h =>
    obtain ⟨t, us, rfl, ne⟩ := starts h
    obtain ⟨mid, front, ending⟩ := passes_append.mp passes
    simp only [List.length_append, List.length_cons, List.length_nil] at bounded enough
    obtain ⟨fuel, rfl⟩ := Nat.exists_eq_add_of_le' (show 2 ≤ fuel by omega)
    obtain ⟨x, answered, rfl⟩ := complete h (by simp only [List.length_cons]; omega) front
      (ending.token_eq ▸ closes)
    have unseen : ¬ la.sees close = true := front.not_sees ne
    have seen : mid.sees close = true := ending.sees
    refine ⟨[x], ?_, rfl⟩
    rw [elementsWithin, if_neg unseen, answered]
    simp only [ok_bind, if_pos seen]
    change (elementsWithin close read (fuel + 1) mid >>= _) = _
    rw [elementsWithin_close ending]
    rfl
  | @comma n ts us y ys h more ih =>
    obtain ⟨t, ts, rfl, ne⟩ := starts h
    obtain ⟨mid, front, behind⟩ := passes_append.mp passes
    obtain ⟨next, comma, rest⟩ := passes_cons.mp behind
    simp only [List.length_append, List.length_cons] at bounded enough
    obtain ⟨fuel, rfl⟩ := Nat.exists_eq_add_of_le' (show 1 ≤ fuel by omega)
    obtain ⟨x, answered, rfl⟩ := complete h (by simp only [List.length_cons]; omega) front
      (comma.token_eq ▸ commas)
    obtain ⟨xs, answered', rfl⟩ :=
      ih starts complete (by omega) (show us.length ≤ fuel by omega) rest
    have unseen : ¬ la.sees close = true := front.not_sees ne
    have opened : ¬ mid.sees close = true :=
      comma.not_sees fun eq => ne_comma (Token.symbol.inj eq).symm
    refine ⟨x :: xs, ?_, rfl⟩
    rw [elementsWithin, if_neg unseen, answered]
    simp only [ok_bind, if_neg opened, expect_eq_ok.mpr comma, answered']
    rfl

/-- **The reader of elements finds as many as there are before the end.** -/
theorem Complete.elements {bound : Nat} {follow : Token → Bool} (ne_comma : close ≠ .comma)
    (starts : ∀ {ts y}, element ts y n → ∃ t us, ts = t :: us ∧ t ≠ .symbol close)
    (closes : follow (.symbol close) = true) (commas : follow (.symbol .comma) = true)
    (complete : Complete bound follow read f fun ts y => element ts y n) :
    Complete bound (fun _ => true) (elements close read) (List.map f)
      fun ts ys => Grammar.Elements close element ts ys n := by
  intro la last ts ys derived bounded passes _
  exact complete.elementsWithin ne_comma starts closes commas derived bounded passes.length_le
    passes

/-! ## Parts with a word between them -/

variable {word : Symbol} {part : List Token → β → Nat → Prop}

theorem Sound.further (sound : Sound read f fun ts y => part ts y n) {xs : List α} {y : β}
    (first : part ts y n) (h : further word read la = .ok (xs, last)) :
    ∃ us, la.Passes us last ∧ Grammar.Separated word part (ts ++ us) (y :: xs.map f) n := by
  have within : ∀ fuel {la xs ts y}, part ts y n →
      furtherWithin word read fuel la = .ok (xs, last) →
      ∃ us, la.Passes us last ∧ Grammar.Separated word part (ts ++ us) (y :: xs.map f) n := by
    intro fuel
    induction fuel with
    | zero => exact fun _ h => (nomatch h)
    | succ fuel ih =>
      intro la xs ts y first h
      by_cases seen : la.sees word = true
      · simp only [furtherWithin, if_pos seen, bind_eq_ok, pure_eq_ok, Prod.exists,
          Prod.mk.injEq] at h
        obtain ⟨next, passed, x, mid, one, more, last, rest, rfl, rfl⟩ := h
        obtain ⟨us, passes, second⟩ := sound one
        obtain ⟨ws, passes', derived⟩ := ih second rest
        exact ⟨_, ((advance_eq_ok seen).mp passed).cons (passes.append passes'),
          .more first derived⟩
      · simp only [furtherWithin, if_neg seen, pure_eq_ok, Prod.mk.injEq] at h
        obtain ⟨rfl, rfl⟩ := h
        exact ⟨[], .none _, (List.append_nil ts).symm ▸ .one first⟩
  exact within la.size first h

theorem furtherWithin_none {fuel : Nat} (unseen : la.token ≠ .symbol word) :
    furtherWithin word read (fuel + 1) la = .ok ([], la) := by
  rw [furtherWithin, if_neg fun seen => unseen (sees_iff.mp seen)]
  rfl

/-- What may follow the parts (`follow'`) may also follow the last of them, and is no further
word. -/
theorem Complete.furtherWithin {bound : Nat} {follow follow' : Token → Bool}
    (ne_nil : ∀ {ts y}, part ts y n → ts ≠ []) (words : follow (.symbol word) = true)
    (stop : ∀ {t}, follow' t = true → follow t = true ∧ t ≠ .symbol word)
    (complete : Complete bound follow read f fun ts y => part ts y n)
    (stops : follow' last.token = true) {ys : List β}
    (derived : Grammar.Separated word part ts ys n) (bounded : ts.length ≤ bound) {fuel : Nat}
    (enough : ts.length < fuel) (passes : la.Passes (.symbol word :: ts) last) :
    ∃ xs, furtherWithin word read fuel la = .ok (xs, last) ∧ xs.map f = ys := by
  induction derived generalizing fuel la with
  | one h =>
    obtain ⟨next, passed, passes⟩ := passes_cons.mp passes
    obtain ⟨x, answered, rfl⟩ := complete h bounded passes (stop stops).1
    have := List.length_pos_iff.mpr (ne_nil h)
    obtain ⟨fuel, rfl⟩ := Nat.exists_eq_add_of_le' (show 2 ≤ fuel by omega)
    have seen : la.sees word = true := passed.sees
    refine ⟨[x], ?_, rfl⟩
    rw [furtherWithin, if_pos seen, (advance_eq_ok seen).mpr passed]
    simp only [ok_bind, answered, furtherWithin_none (stop stops).2]
    rfl
  | @more n ts us y ys h more ih =>
    obtain ⟨next, passed, passes⟩ := passes_cons.mp passes
    obtain ⟨mid, front, behind⟩ := passes_append.mp passes
    simp only [List.length_append, List.length_cons] at bounded enough
    obtain ⟨fuel, rfl⟩ := Nat.exists_eq_add_of_le' (show 1 ≤ fuel by omega)
    obtain ⟨x, answered, rfl⟩ := complete h (by omega) front (behind.token_eq ▸ words)
    obtain ⟨xs, answered', rfl⟩ :=
      ih ne_nil complete (by omega) (show us.length < fuel by omega) behind
    have seen : la.sees word = true := passed.sees
    refine ⟨x :: xs, ?_, rfl⟩
    rw [furtherWithin, if_pos seen, (advance_eq_ok seen).mpr passed]
    simp only [ok_bind, answered, answered']
    rfl

theorem Complete.separated {bound : Nat} {follow follow' : Token → Bool}
    (ne_nil : ∀ {ts y}, part ts y n → ts ≠ []) (words : follow (.symbol word) = true)
    (stop : ∀ {t}, follow' t = true → follow t = true ∧ t ≠ .symbol word)
    (complete : Complete bound follow read f fun ts y => part ts y n) {ys : List β}
    (derived : Grammar.Separated word part ts ys n) (bounded : ts.length ≤ bound)
    (passes : la.Passes ts last) (stops : follow' last.token = true) :
    ∃ x mid xs, read la = .ok (x, mid) ∧ further word read mid = .ok (xs, last) ∧
      f x :: xs.map f = ys := by
  cases derived with
  | one h =>
    obtain ⟨x, answered, rfl⟩ := complete h bounded passes (stop stops).1
    exact ⟨x, last, [], answered, furtherWithin_none (stop stops).2, rfl⟩
  | @more _ us _ y ys h more =>
    obtain ⟨mid, front, behind⟩ := passes_append.mp passes
    simp only [List.length_append, List.length_cons] at bounded
    obtain ⟨x, answered, rfl⟩ := complete h (by omega) front (behind.token_eq ▸ words)
    obtain ⟨xs, answered', rfl⟩ :=
      complete.furtherWithin ne_nil words stop stops more (by omega) behind.length_le behind
    exact ⟨x, mid, xs, answered, answered', rfl⟩

end

end Lookahead

end RunFilter
