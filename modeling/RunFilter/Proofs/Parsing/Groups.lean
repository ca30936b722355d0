import RunFilter.Proofs.Parsing.Texts

/-!
# Groups of texts

A text in parentheses is read as the text itself, wherever both are read at all, and two such groups
with `and` between them are read as the conjunction of the two filters (`parse_both`).

The tokens of the whole text are those of its parts, so the matter is one of derivations. That the
text in parentheses was read says that there is room for one more group around its filter; what was
read there has to be the filter itself, because tokens that derive a filter derive no other one and
end at one place only (`Expression.unique`).
-/

set_option autoImplicit false

namespace RunFilter

namespace Grammar

/-! ## Room for nesting -/

section

variable {α : Type} {n m : Nat} {ts : List Token} {xs : List α}

theorem Separated.mono {word : Symbol} {part : List Token → α → Nat → Prop}
    (h : Separated word part ts xs n)
    (each : ∀ {us x}, us.length ≤ ts.length → part us x n → part us x m) :
    Separated word part ts xs m := by
  induction h with
  | one h => exact .one (each (Nat.le_refl _) h)
  | @more n ts us x xs h more ih =>
    simp only [List.length_append, List.length_cons] at each
    exact .more (each (by omega) h) (ih fun le => each (by omega))

/-- The closing symbol is none of an element's tokens. -/
theorem Elements.mono {close : Symbol} {element : List Token → α → Nat → Prop}
    (h : Elements close element ts xs n)
    (each : ∀ {us x}, us.length < ts.length → element us x n → element us x m) :
    Elements close element ts xs m := by
  induction h with
  | none => exact .none
  | last h =>
    simp only [List.length_append, List.length_cons, List.length_nil] at each
    exact .last (each (by omega) h)
  | comma h more ih =>
    simp only [List.length_append, List.length_cons] at each
    exact .comma (each (by omega) h) (ih fun less => each (by omega))

end

variable {n m : Nat} {ts : List Token} {f : Filter}

theorem Chain.mono {left : Filter} {fs : List Filter} (h : Chain left ts fs n)
    (each : ∀ {us g}, us.length ≤ ts.length → Operand us g n → Operand us g m) :
    Chain left ts fs m := by
  induction fs generalizing left ts with
  | nil =>
    cases h
    exact .nil
  | cons f fs ih =>
    cases h with
    | cons spelt operand more =>
      simp only [List.length_append, List.length_map] at each
      exact .cons spelt (each (by omega) operand) (ih more fun le => each (by omega))

theorem Comparison.mono (h : Comparison ts f n)
    (each : ∀ {us g}, us.length ≤ ts.length → Operand us g n → Operand us g m) :
    Comparison ts f m := by
  cases h with
  | operand h => exact .operand (each (Nat.le_refl _) h)
  | chain h more ne =>
    simp only [List.length_append] at each
    exact .chain (each (by omega) h) (more.mono fun le => each (by omega)) ne

/-- **A derivation leaves room for more nesting.** Calls keep the room that they have, so the
induction is on the number of tokens. -/
theorem weaken_within (bound : Nat) :
    (∀ {n ts f}, ts.length ≤ bound → Negation ts f n → Negation ts f (n + 1)) ∧
      ∀ {n ts f}, ts.length ≤ bound → Expression ts f n → Expression ts f (n + 1) := by
  have levels : ∀ {n ts f}, (∀ {us g}, us.length ≤ ts.length → Negation us g n →
      Negation us g (n + 1)) → Expression ts f n → Expression ts f (n + 1) := by
    intro n ts f negations h
    cases h with
    | of h =>
      refine .of (h.mono fun le h => ?_)
      cases h with
      | of h => exact .of (h.mono fun le' => negations (Nat.le_trans le' le))
  induction bound with
  | zero =>
    constructor
    · intro n ts f le h
      obtain ⟨t, us, rfl, _⟩ := h.starts
      cases le
    · intro n ts f le h
      obtain ⟨t, us, rfl, _⟩ := h.starts
      cases le
  | succ bound ih =>
    have operands : ∀ {n ts f}, ts.length ≤ bound + 1 → Operand ts f n →
        Operand ts f (n + 1) := by
      intro n ts f le h
      cases h with
      | constant h =>
        cases h
        exact .constant (.of _)
      | list h =>
        refine .list (h.mono fun _ h => ?_)
        cases h
        exact .of _
      | group h =>
        simp only [List.length_append, List.length_cons, List.length_nil] at le
        exact .group (ih.2 (by omega) h)
      | path h => exact .path h
      | method h known args =>
        simp only [List.length_append, List.length_cons] at le
        exact .method h known (args.mono fun less => ih.2 (by omega))
      | pattern known args =>
        simp only [List.length_cons] at le
        exact .pattern known (args.mono fun less => ih.2 (by omega))
    have negations : ∀ {n ts f}, ts.length ≤ bound + 1 → Negation ts f n →
        Negation ts f (n + 1) := by
      intro n ts f le h
      cases h with
      | not h => exact .not (ih.1 (Nat.le_of_succ_le_succ le) h)
      | comparison h => exact .comparison (h.mono fun le' => operands (Nat.le_trans le' le))
    exact ⟨negations, fun le => levels fun le' => negations (Nat.le_trans le' le)⟩

theorem Expression.weaken (h : Expression ts f n) (le : n ≤ m) : Expression ts f m := by
  induction le with
  | refl => exact h
  | step _ ih => exact (weaken_within ts.length).2 (Nat.le_refl _) ih

/-! ## Groups -/

theorem Separated.first {α : Type} {word : Symbol} {part : List Token → α → Nat → Prop}
    {xs : List α} (h : Separated word part ts xs n) :
    ∃ us rest x, part us x n ∧ ts = us ++ rest := by
  cases h with
  | one h => exact ⟨_, [], _, h, (List.append_nil _).symm⟩
  | more h more => exact ⟨_, _, _, h, rfl⟩

/-- A filter that does not begin with `not` begins with an operand. -/
theorem Expression.first_operand (h : Expression ts f n) :
    ts.head? = some (.symbol .notWord) ∨ ∃ us rest g, Operand us g n ∧ ts = us ++ rest := by
  cases h with
  | of alternatives =>
    obtain ⟨us, rest, g, conjunction, rfl⟩ := alternatives.first
    cases conjunction with
    | of conjuncts =>
      obtain ⟨ws, rest', g', negation, rfl⟩ := conjuncts.first
      cases negation with
      | not => exact .inl rfl
      | comparison comparison =>
        right
        rw [List.append_assoc]
        cases comparison with
        | operand operand => exact ⟨_, _, _, operand, rfl⟩
        | chain operand more ne =>
          rw [List.append_assoc]
          exact ⟨_, _, _, operand, rfl⟩

/-- A filter that begins with a parenthesis begins with a group. -/
theorem Expression.first_group (h : Expression (.symbol .leftParen :: ts) f n) :
    ∃ room us rest g, n = room + 1 ∧ Expression us g room ∧
      ts = us ++ .symbol .rightParen :: rest := by
  rcases h.first_operand with first | ⟨us, rest, g, operand, eq⟩
  · cases first
  · cases operand with
    | constant constant =>
      cases constant
      cases eq
    | list => cases eq
    | group inner =>
      refine ⟨_, _, rest, _, rfl, inner, ?_⟩
      rw [(List.cons.inj eq).2]
      simp
    | path path =>
      obtain ⟨s, us, rfl⟩ := path.starts
      cases eq
    | method path =>
      obtain ⟨s, us, rfl⟩ := path.starts
      cases eq
    | pattern => cases eq

end Grammar

/-! ## Derivations and places -/

namespace Lookahead

/-- The tokens that may still be passed. -/
def weight (la : Lookahead) : Nat := if la.token = .endOfText then 0 else la.size

variable {la last last' : Lookahead} {ts us : List Token}

/-- Passing tokens takes them from those ahead. -/
theorem Passes.weight_le (h : la.Passes ts last) : last.weight + ts.length ≤ la.weight := by
  induction h with
  | none la => exact Nat.le_refl _
  | @token la next last ts inside h more ih =>
    have step : next.weight < la.weight := by
      obtain ⟨token, offset, rest⟩ := la
      cases rest with
      | finish offset =>
        cases h
        simp [weight, size, inside]
      | broken e => cases h
      | cons token' offset' rest =>
        cases h
        simp only [weight, size, inside, if_false, TokenStream.size]
        split <;> omega
    simp only [List.length_cons]
    omega

/-- **Only one row of tokens leads from one place to another.** -/
theorem Passes.tokens_unique (h : la.Passes ts last) (h' : la.Passes us last) : ts = us := by
  have behind : ∀ {la t ts}, la.Passes (t :: ts) last → la ≠ last := by
    rintro la t ts h rfl
    have := h.weight_le
    simp only [List.length_cons] at this
    omega
  induction ts generalizing la us with
  | nil =>
    cases us with
    | nil => rfl
    | cons u us => exact (behind h' (passes_nil.mp h)).elim
  | cons t ts ih =>
    cases us with
    | nil => exact (behind h (passes_nil.mp h')).elim
    | cons u us =>
      obtain rfl : t = u := h.token_eq.symm.trans h'.token_eq
      obtain ⟨next, one, more⟩ := passes_cons.mp h
      obtain ⟨next', one', more'⟩ := passes_cons.mp h'
      obtain rfl : next = next' :=
        Except.ok.inj ((passes_singleton.mp one).2.2.symm.trans (passes_singleton.mp one').2.2)
      rw [ih more more']

end Lookahead

namespace Grammar

open RunFilter.Filter

variable {la last last' : Lookahead} {ts us : List Token} {f g : Filter} {n m : Nat}

/-- **From one place on tokens derive one filter**, and they end at one place. -/
theorem Expression.unique (h : Expression ts f n) (h' : Expression us g m)
    (passes : la.Passes ts last) (passes' : la.Passes us last')
    (stop : endsExpression last.token = true) (stop' : endsExpression last'.token = true) :
    ts = us ∧ f = g := by
  obtain ⟨x, read, rfl⟩ := complete_expressionWithin la.size (max n m)
    (h.weaken (Nat.le_max_left n m)) passes.length_le passes stop
  obtain ⟨y, read', rfl⟩ := complete_expressionWithin la.size (max n m)
    (h'.weaken (Nat.le_max_right n m)) passes'.length_le passes' stop'
  rw [read] at read'
  cases read'
  exact ⟨passes.tokens_unique passes', rfl⟩

end Grammar

/-! ## Texts -/

namespace Reads

variable {cs : List Char} {ts us : List Token}

theorem unique {s : String} (h : Reads s.toList ts) (h' : Reads s.toList us) : ts = us := by
  have tokens := (tokenize_eq_ok_iff_reads.mpr h).symm.trans (tokenize_eq_ok_iff_reads.mpr h')
  exact List.append_cancel_right (Except.ok.inj tokens)

theorem separates_rightParen : Separates ')' := ⟨by decide, by decide⟩

theorem leftParen (h : Reads cs ts) : Reads ('(' :: cs) (.symbol .leftParen :: ts) :=
  .token rfl (by decide) h

theorem rightParen (h : Reads cs ts) : Reads (')' :: cs) (.symbol .rightParen :: ts) :=
  .token rfl (by decide) h

theorem andLeftParen (h : Reads cs ts) :
    Reads (" and (".toList ++ cs) (.symbol .andWord :: .symbol .leftParen :: ts) :=
  .token rfl (by decide) (.token rfl (by decide) h)

end Reads

namespace Filter

open Lookahead

/-- **The tokens of a text that was read**, and the places between which they stand. -/
theorem exists_derivation {s : String} {f : Filter} (h : parse s = .ok (some f)) :
    ∃ (ts : List Token) (la last : Lookahead), Reads s.toList ts ∧ la.Passes ts last ∧ last.token = .endOfText ∧
      Grammar.Expression ts f.bare maxNesting := by
  obtain ⟨la, view, ⟨_, none⟩ | ⟨_, f', last, some, read, ended⟩⟩ :=
    ofTokens?_eq_ok.mp (parse_eq_ok.mp h)
  · cases none
  · cases some
    obtain ⟨ts, passes, derived⟩ := sound_expressionWithin _ _ read
    have tokens := tokenize_eq_ok.mpr ⟨la, last, view, passes, ended⟩
    exact ⟨ts, la, last, tokenize_eq_ok_iff_reads.mp tokens, passes, ended, derived⟩

/-- A text whose tokens derive a filter is read as that filter. -/
theorem exists_parse {s : String} {f : Filter} {ts : List Token} (h : Reads s.toList ts)
    (derived : Grammar.Expression ts f maxNesting) :
    ∃ f', parse s = .ok (some f') ∧ f'.bare = f := by
  obtain ⟨la, last, view, passes, ended⟩ := tokenize_eq_ok.mp (tokenize_eq_ok_iff_reads.mpr h)
  have stop : endsExpression last.token = true := by
    rw [ended]
    rfl
  obtain ⟨f', read, eq⟩ :=
    complete_expressionWithin la.size maxNesting derived passes.length_le passes stop
  have inside : la.token ≠ .endOfText := by
    obtain ⟨t, us, rfl, starts⟩ := derived.starts
    rw [passes.token_eq]
    rintro rfl
    cases starts
  exact ⟨f', parse_eq_ok.mpr (ofTokens?_eq_ok.mpr
    ⟨la, view, .inr ⟨inside, f', last, rfl, read, ended⟩⟩), eq⟩

/-- **A text that is read in parentheses as well** has room for one more group around it. -/
theorem exists_operand {s : String} {f g : Filter} (read : parse s = .ok (some f))
    (grouped : parse ("(" ++ s ++ ")") = .ok (some g)) :
    ∃ ts, Reads s.toList ts ∧ Grammar.Operand
      (.symbol .leftParen :: (ts ++ [.symbol .rightParen])) f.bare maxNesting := by
  obtain ⟨ts, la, last, reads, passes, ended, derived⟩ := exists_derivation read
  obtain ⟨ws, la', last', reads', passes', ended', derived'⟩ := exists_derivation grouped
  have whole : Reads ("(" ++ s ++ ")").toList
      (.symbol .leftParen :: (ts ++ [.symbol .rightParen])) := by
    simp only [String.toList_append]
    exact (reads.append Reads.separates_rightParen (.rightParen (.finish rfl))).leftParen
  obtain rfl := reads'.unique whole
  obtain ⟨room, us, rest, inner, size, group, eq⟩ := derived'.first_group
  obtain ⟨next, opened, behind⟩ := passes_cons.mp passes'
  obtain ⟨mid, front, closed⟩ := passes_append.mp behind
  rw [eq] at behind
  obtain ⟨mid', front', closed'⟩ := passes_append.mp behind
  have stop : endsExpression mid.token = true := by
    rw [closed.token_eq]
    rfl
  have stop' : endsExpression mid'.token = true := by
    rw [closed'.token_eq]
    rfl
  obtain ⟨rfl, rfl⟩ := derived.unique group front front' stop stop'
  exact ⟨_, reads, size ▸ .group group⟩

/-- **Two texts in parentheses with `and` between them** are read as the conjunction of the filters
that they are read as. -/
theorem parse_both {s s' : String} {f f' g g' : Filter} (read : parse s = .ok (some f))
    (grouped : parse ("(" ++ s ++ ")") = .ok (some g)) (read' : parse s' = .ok (some f'))
    (grouped' : parse ("(" ++ s' ++ ")") = .ok (some g')) :
    ∃ h, parse ("(" ++ s ++ ") and (" ++ s' ++ ")") = .ok (some h) ∧ h.bare = (f.both f').bare := by
  obtain ⟨ts, reads, operand⟩ := exists_operand read grouped
  obtain ⟨us, reads', operand'⟩ := exists_operand read' grouped'
  have closed : Reads (s'.toList ++ [')']) (us ++ [.symbol .rightParen]) :=
    reads'.append Reads.separates_rightParen (.rightParen (.finish rfl))
  have whole : Reads ("(" ++ s ++ ") and (" ++ s' ++ ")").toList
      ((.symbol .leftParen :: (ts ++ [.symbol .rightParen])) ++ .symbol .andWord ::
        (.symbol .leftParen :: (us ++ [.symbol .rightParen]))) := by
    have front := (reads.append Reads.separates_rightParen closed.andLeftParen.rightParen).leftParen
    simpa [String.toList_append] using front
  refine exists_parse whole (.of (.one (.of (.more (.comparison (.operand operand))
    (.one (.comparison (.operand operand')))))))

end Filter

end RunFilter
