import RunFilter.Proofs.Parsing.Passing

/-!
# Reading attributes and calls

The readers of subscripts, attributes and calls against their grammar. The grammar of subscripts
and attributes has no part that nests, so soundness and completeness are case by case; only the
arguments of calls are filters again, and what the reader of filters does for them is an
assumption.
-/

set_option autoImplicit false

namespace RunFilter.Filter

open Lookahead

variable {la mid last : Lookahead} {ts : List Token} {n : Nat}

/-! ## Subscripts -/

theorem contextEntry_eq_ok {entry : String × String} :
    contextEntry la = .ok (entry, last) ↔
      la.Passes [.literal (.text entry.1), .symbol .colon, .literal (.text entry.2)] last := by
  simp only [contextEntry, bind_eq_ok, pure_eq_ok, text_eq_ok, expect_eq_ok, Prod.exists,
    Prod.mk.injEq]
  constructor
  · rintro ⟨key, next, first, after, colon, value, last, second, rfl, rfl⟩
    exact first.cons (colon.cons second)
  · intro h
    obtain ⟨next, first, h⟩ := passes_cons.mp h
    obtain ⟨after, colon, second⟩ := passes_cons.mp h
    exact ⟨_, next, first, after, colon, _, last, second, rfl, rfl⟩

theorem sound_contextEntry : Sound contextEntry id fun ts e => Grammar.ContextEntry ts e n := by
  intro la last entry h
  exact ⟨_, contextEntry_eq_ok.mp h, .of entry.1 entry.2⟩

theorem complete_contextEntry (bound : Nat) (follow : Token → Bool) :
    Complete bound follow contextEntry id fun ts e => Grammar.ContextEntry ts e n := by
  intro la last ts entry h _ passes _
  cases h with
  | of key value => exact ⟨_, contextEntry_eq_ok.mpr passes, rfl⟩

theorem context_sound {d : Dictionary} (seen : la.sees .leftBrace = true)
    (h : context la = .ok (d, last)) : ∃ ts, la.Passes ts last ∧ Grammar.Context ts d := by
  simp only [context, bind_eq_ok, pure_eq_ok, Prod.exists, Prod.mk.injEq] at h
  obtain ⟨next, opened, entries, last, h, rfl, rfl⟩ := h
  obtain ⟨ts, passes, derived⟩ := Sound.elements (sound_contextEntry (n := 0)) h
  rw [List.map_id] at derived
  exact ⟨_, ((advance_eq_ok seen).mp opened).cons passes, .of derived⟩

theorem context_sees {d : Dictionary} (h : Grammar.Context ts d) (passes : la.Passes ts last) :
    la.sees .leftBrace = true := by
  cases h
  exact passes.sees

theorem context_complete {d : Dictionary} (h : Grammar.Context ts d) (passes : la.Passes ts last) :
    context la = .ok (d, last) := by
  cases h with
  | @of n ts entries derived =>
    obtain ⟨next, opened, passes⟩ := passes_cons.mp passes
    have starts : ∀ {ts e}, Grammar.ContextEntry ts e n →
        ∃ t us, ts = t :: us ∧ t ≠ .symbol .rightBrace := fun h => by
      cases h
      exact ⟨_, _, rfl, Token.noConfusion⟩
    obtain ⟨xs, answered, eq⟩ := (complete_contextEntry ts.length fun _ => true).elements
      (by decide) starts rfl rfl derived (Nat.le_refl _) passes rfl
    rw [List.map_id] at eq
    subst eq
    simp only [context, (advance_eq_ok opened.sees).mpr opened, ok_bind,
      answered]
    rfl

theorem contextPart_sound {start : Nat} {found : Option Dictionary}
    (h : contextPart start la = .ok (found, last)) :
    ∃ ts, la.Passes ts last ∧ Grammar.ContextPart ts found := by
  unfold contextPart at h
  split at h
  next opened =>
    obtain ⟨⟨d, after⟩, read, h⟩ := bind_eq_ok.mp h
    obtain ⟨ts, passes, derived⟩ := context_sound opened read
    by_cases comma : after.sees .comma = true
    · simp only [if_pos comma, bind_eq_ok, pure_eq_ok, Prod.mk.injEq] at h
      obtain ⟨last, passed, rfl, rfl⟩ := h
      exact ⟨_, passes.append ((advance_eq_ok comma).mp passed), .comma derived⟩
    · simp only [if_neg comma, bind_eq_ok, pure_eq_ok, Prod.mk.injEq] at h
      obtain ⟨last, rfl, rfl, rfl⟩ := h
      exact ⟨_, passes, .some derived⟩
  next =>
    split at h
    · cases h
      exact ⟨_, .none la, .none⟩
    · cases h

theorem contextPart_complete (start : Nat) {found : Option Dictionary}
    (h : Grammar.ContextPart ts found) (passes : la.Passes (ts ++ [.symbol .rightBracket]) last) :
    ∃ mid, contextPart start la = .ok (found, mid) ∧ mid.Passes [.symbol .rightBracket] last := by
  unfold contextPart
  cases h with
  | none =>
    refine ⟨la, ?_, passes⟩
    rw [if_neg (passes.not_sees (by decide)), if_pos passes.sees]
    rfl
  | some derived =>
    obtain ⟨mid, front, ending⟩ := passes_append.mp passes
    refine ⟨mid, ?_, ending⟩
    rw [if_pos (context_sees derived front), context_complete derived front]
    simp only [ok_bind, if_neg (ending.not_sees (s := .comma) (by decide))]
    rfl
  | comma derived =>
    obtain ⟨mid, front, ending⟩ := passes_append.mp passes
    obtain ⟨after, front, comma⟩ := passes_append.mp front
    refine ⟨mid, ?_, ending⟩
    rw [if_pos (context_sees derived front), context_complete derived front]
    simp only [ok_bind, if_pos comma.sees, (advance_eq_ok comma.sees).mpr comma]
    rfl

theorem subscript_sound {s : Subscript} (seen : la.sees .leftBracket = true)
    (h : subscript la = .ok (s, last)) : ∃ ts, la.Passes ts last ∧ Grammar.Bracketed ts s := by
  simp only [subscript] at h
  obtain ⟨next, opened, h⟩ := bind_eq_ok.mp h
  obtain ⟨⟨name, after⟩, named, h⟩ := bind_eq_ok.mp h
  have front := ((advance_eq_ok seen).mp opened).cons (text_eq_ok.mp named)
  by_cases comma : after.sees .comma = true
  · simp only [if_pos comma] at h
    obtain ⟨behind, passed, h⟩ := bind_eq_ok.mp h
    obtain ⟨⟨found, close⟩, part, h⟩ := bind_eq_ok.mp h
    obtain ⟨ts, passes, derived⟩ := contextPart_sound part
    by_cases closed : close.sees .rightBracket = true
    · simp only [if_pos closed, bind_eq_ok, pure_eq_ok, Prod.mk.injEq] at h
      obtain ⟨last, ending, rfl, rfl⟩ := h
      have ending := (advance_eq_ok closed).mp ending
      exact ⟨_, front.append (((advance_eq_ok comma).mp passed).cons (passes.append ending)),
        .context name derived⟩
    · simp only [if_neg closed] at h
      cases h
  · simp only [if_neg comma] at h
    by_cases closed : after.sees .rightBracket = true
    · simp only [pure_bind, if_pos closed, bind_eq_ok, pure_eq_ok, Prod.mk.injEq] at h
      obtain ⟨last, ending, rfl, rfl⟩ := h
      exact ⟨_, front.append ((advance_eq_ok closed).mp ending), .name name⟩
    · simp only [pure_bind, if_neg closed] at h
      cases h

theorem subscript_complete {s : Subscript} (h : Grammar.Bracketed ts s)
    (passes : la.Passes ts last) : subscript la = .ok (s, last) := by
  unfold subscript
  cases h with
  | name s =>
    obtain ⟨next, opened, passes⟩ := passes_cons.mp passes
    obtain ⟨mid, named, ending⟩ := passes_cons.mp passes
    simp only [(advance_eq_ok opened.sees).mpr opened, ok_bind, text_eq_ok.mpr named,
      if_neg (ending.not_sees (s := .comma) (by decide)), pure_bind, if_pos ending.sees,
      (advance_eq_ok ending.sees).mpr ending]
    rfl
  | context s derived =>
    obtain ⟨next, opened, passes⟩ := passes_cons.mp passes
    obtain ⟨mid, named, passes⟩ := passes_cons.mp passes
    obtain ⟨behind, comma, passes⟩ := passes_cons.mp passes
    obtain ⟨close, answered, ending⟩ := contextPart_complete la.offset derived passes
    simp only [(advance_eq_ok opened.sees).mpr opened, ok_bind, text_eq_ok.mpr named,
      if_pos comma.sees, (advance_eq_ok comma.sees).mpr comma, answered, if_pos ending.sees,
      (advance_eq_ok ending.sees).mpr ending]
    rfl

theorem subscript?_sound {found : Option Subscript} (h : subscript? la = .ok (found, last)) :
    ∃ ts, la.Passes ts last ∧ Grammar.Subscripted ts found := by
  unfold subscript? at h
  split at h
  next seen =>
    simp only [bind_eq_ok, pure_eq_ok, Prod.exists, Prod.mk.injEq] at h
    obtain ⟨s, last, h, rfl, rfl⟩ := h
    obtain ⟨ts, passes, derived⟩ := subscript_sound seen h
    exact ⟨ts, passes, .some derived⟩
  next =>
    cases h
    exact ⟨[], .none la, .none⟩

theorem subscript?_complete {found : Option Subscript} (h : Grammar.Subscripted ts found)
    (passes : la.Passes ts last) (stop : last.token ≠ .symbol .leftBracket) :
    subscript? la = .ok (found, last) := by
  unfold subscript?
  cases h with
  | none =>
    obtain rfl := passes_nil.mp passes
    rw [if_neg fun seen => stop (sees_iff.mp seen)]
    rfl
  | some derived =>
    have seen : la.sees .leftBracket = true := by
      cases derived <;> exact passes.sees
    rw [if_pos seen, subscript_complete derived passes]
    rfl

/-! ## Attributes and calls -/

theorem mem_methods {name : String} {function : Function} :
    (name, function) ∈ Grammar.methods ↔ method? name = some function := by
  simp only [Grammar.methods, List.mem_cons, Prod.mk.injEq, List.not_mem_nil, or_false]
  constructor
  · rintro (⟨rfl, rfl⟩ | ⟨rfl, rfl⟩) <;> rfl
  · intro h
    unfold method? at h
    split at h <;> cases h
    · exact .inl ⟨rfl, rfl⟩
    · exact .inr ⟨rfl, rfl⟩

theorem mem_patternFunctions {name : String} {function : Function} :
    (name, function) ∈ Grammar.patternFunctions ↔ patternFunction? name = some function := by
  simp only [Grammar.patternFunctions, List.mem_cons, Prod.mk.injEq, List.not_mem_nil, or_false]
  constructor
  · rintro (⟨rfl, rfl⟩ | ⟨rfl, rfl⟩) <;> rfl
  · intro h
    unfold patternFunction? at h
    split at h <;> cases h
    · exact .inl ⟨rfl, rfl⟩
    · exact .inr ⟨rfl, rfl⟩

/-- A token that would continue an attribute. -/
def continuesAttribute (t : Token) : Bool :=
  t = .symbol .leftBracket || t = .symbol .leftParen || t = .symbol .dot

theorem continuesAttribute_eq_false {t : Token} : continuesAttribute t = false ↔
    t ≠ .symbol .leftBracket ∧ t ≠ .symbol .leftParen ∧ t ≠ .symbol .dot := by
  simp only [continuesAttribute, Bool.or_eq_false_iff, decide_eq_false_iff_not, and_assoc]

theorem complete_of_ok {filter f : Filter} (h : complete filter la = .ok (f, last)) :
    f = filter ∧ last = la := by
  unfold complete at h
  split at h
  · cases h
  · cases h
  · cases h
  · cases h
    exact ⟨rfl, rfl⟩

theorem complete_of_stop (filter : Filter) (stop : continuesAttribute la.token = false) :
    complete filter la = .ok (filter, la) := by
  unfold complete
  split
  next token =>
    rw [token] at stop
    cases stop
  next token =>
    rw [token] at stop
    cases stop
  next token =>
    rw [token] at stop
    cases stop
  next => rfl

section

variable {expression : Reader Filter}

theorem arguments_sound {args : List Filter}
    (sound : Sound expression bare fun ts f => Grammar.Expression ts f n)
    (h : arguments expression la = .ok (args, last)) :
    ∃ ts, la.Passes (.symbol .leftParen :: ts) last ∧
      Grammar.Elements .rightParen Grammar.Expression ts (args.map bare) n := by
  obtain ⟨next, opened, h⟩ := bind_eq_ok.mp h
  obtain ⟨ts, passes, derived⟩ := sound.elements h
  exact ⟨ts, (expect_eq_ok.mp opened).cons passes, derived⟩

/-- What the reader of a dot behind an attribute has passed: a method call, or a member. -/
theorem access_sound {path : AttributePath} {found : Filter ⊕ String}
    (sound : Sound expression bare fun ts f => Grammar.Expression ts f n)
    (seen : la.sees .dot = true) (whole : Grammar.Path ts { path with offset := 0 })
    (h : access expression path la = .ok (found, last)) :
    (∃ us f, found = .inl f ∧ la.Passes us last ∧ Grammar.Operand (ts ++ us) f.bare n) ∨
      ∃ name, found = .inr name ∧ la.Passes [.symbol .dot, .name name] last := by
  obtain ⟨next, dot, h⟩ := bind_eq_ok.mp h
  obtain ⟨⟨name, after⟩, named, h⟩ := bind_eq_ok.mp h
  have front := ((advance_eq_ok seen).mp dot).cons (name_eq_ok.mp named)
  dsimp only at h
  split at h
  · split at h
    · cases h
    next function known =>
      obtain ⟨⟨args, behind⟩, read, h⟩ := bind_eq_ok.mp h
      simp only [bind_eq_ok, pure_eq_ok, Prod.exists, Prod.mk.injEq] at h
      obtain ⟨f, last, ended, rfl, rfl⟩ := h
      obtain ⟨rfl, rfl⟩ := complete_of_ok ended
      obtain ⟨us, passes, derived⟩ := arguments_sound sound read
      refine .inl ⟨_, _, rfl, front.append passes, ?_⟩
      rw [bare, bareAll, bareAll_eq_map]
      exact .method whole (mem_methods.mpr known) derived
  · cases h
    exact .inr ⟨name, rfl, front⟩

theorem withMember_sound {path : AttributePath} {f : Filter}
    (sound : Sound expression bare fun ts f => Grammar.Expression ts f n)
    (whole : Grammar.Path ts { path with offset := 0 })
    (h : withMember expression path la = .ok (f, last)) :
    ∃ us, la.Passes us last ∧ Grammar.Operand (ts ++ us) f.bare n := by
  unfold withMember at h
  split at h
  next seen =>
    obtain ⟨⟨found, after⟩, read, h⟩ := bind_eq_ok.mp h
    obtain ⟨us, f', rfl, passes, derived⟩ | ⟨name, rfl, _⟩ := access_sound sound seen whole read
    · cases h
      exact ⟨us, passes, derived⟩
    · cases h
  next =>
    obtain ⟨rfl, rfl⟩ := complete_of_ok h
    exact ⟨[], .none _, (List.append_nil ts).symm ▸ .path whole⟩

/-- `ts` are the tokens of the attribute, to which a member may still be added. -/
theorem withoutMember_sound {path : AttributePath} {f : Filter}
    (sound : Sound expression bare fun ts f => Grammar.Expression ts f n)
    (front : ∀ {us member}, Grammar.Membered us member →
      Grammar.Path (ts ++ us) { path with member, offset := 0 })
    (bare_path : path.member = none)
    (h : withoutMember expression path la = .ok (f, last)) :
    ∃ us, la.Passes us last ∧ Grammar.Operand (ts ++ us) f.bare n := by
  have whole : Grammar.Path ts { path with offset := 0 } := by
    have := front .none
    rw [List.append_nil] at this
    rwa [← bare_path] at this
  unfold withoutMember at h
  split at h
  next seen =>
    obtain ⟨⟨found, after⟩, read, h⟩ := bind_eq_ok.mp h
    obtain ⟨us, f', rfl, passes, derived⟩ | ⟨name, rfl, passes⟩ :=
      access_sound sound seen whole read
    · cases h
      exact ⟨us, passes, derived⟩
    · obtain ⟨ws, passes', derived⟩ :=
        @withMember_sound _ _ _ _ _ { path with member := some name } _ sound
          (front (.some name)) h
      exact ⟨_, passes.append passes', List.append_assoc .. ▸ derived⟩
  next =>
    obtain ⟨rfl, rfl⟩ := complete_of_ok h
    exact ⟨[], .none _, (List.append_nil ts).symm ▸ .path whole⟩

theorem patternCall_sound {name : String} {offset : Nat} {f : Filter}
    (sound : Sound expression bare fun ts f => Grammar.Expression ts f n)
    (h : patternCall expression name offset la = .ok (f, last)) :
    ∃ us, la.Passes us last ∧
      Grammar.Operand (.name "re" :: .symbol .dot :: .name name :: us) f.bare n := by
  unfold patternCall at h
  split at h
  · cases h
  next function known =>
    obtain ⟨⟨args, behind⟩, read, h⟩ := bind_eq_ok.mp h
    obtain ⟨rfl, rfl⟩ := complete_of_ok h
    obtain ⟨us, passes, derived⟩ := arguments_sound sound read
    refine ⟨_, passes, ?_⟩
    rw [bare, bareAll_eq_map]
    exact .pattern (mem_patternFunctions.mpr known) derived

theorem attributeOrMethod_sound {entity field : String} {offset : Nat} {f : Filter}
    (sound : Sound expression bare fun ts f => Grammar.Expression ts f n) (ne : entity ≠ "re")
    (h : attributeOrMethod expression entity field offset la = .ok (f, last)) :
    ∃ us, la.Passes us last ∧
      Grammar.Operand (.name entity :: .symbol .dot :: .name field :: us) f.bare n := by
  obtain ⟨⟨found, behind⟩, read, h⟩ := bind_eq_ok.mp h
  obtain ⟨us, passes, derived⟩ := subscript?_sound read
  have front : ∀ {ws member}, Grammar.Membered ws member →
      Grammar.Path (.name entity :: .symbol .dot :: .name field :: us ++ ws)
        { entity, field, subscript := found, member, offset := 0 } :=
    fun membered => .of ne derived membered
  obtain ⟨ws, passes', derived'⟩ := withoutMember_sound sound front rfl h
  exact ⟨_, passes.append passes', derived'⟩

theorem sound_attributeOrCall
    (sound : Sound expression bare fun ts f => Grammar.Expression ts f n) :
    Sound (attributeOrCall expression) bare fun ts f => Grammar.Operand ts f n := by
  intro la last f h
  obtain ⟨⟨entity, after⟩, named, h⟩ := bind_eq_ok.mp h
  dsimp only at h
  split at h
  · cases h
  · split at h
    · cases h
    next dot =>
      obtain ⟨next, passed, h⟩ := bind_eq_ok.mp h
      obtain ⟨⟨field, mid⟩, named', h⟩ := bind_eq_ok.mp h
      have seen : after.sees .dot = true := by
        rwa [Bool.not_eq_true', Bool.not_eq_false] at dot
      have front := (name_eq_ok.mp named).cons
        (((advance_eq_ok seen).mp passed).cons (name_eq_ok.mp named'))
      dsimp only at h
      split at h
      next re =>
        obtain ⟨us, passes, derived⟩ := patternCall_sound sound h
        refine ⟨_, front.append passes, ?_⟩
        rw [re]
        exact derived
      next ne =>
        obtain ⟨us, passes, derived⟩ := attributeOrMethod_sound sound ne h
        exact ⟨_, front.append passes, derived⟩

variable {follow : Token → Bool} {bound : Nat}

theorem arguments_complete {args : List Filter}
    (complete : Complete bound follow expression bare fun ts f => Grammar.Expression ts f n)
    (closes : follow (.symbol .rightParen) = true) (commas : follow (.symbol .comma) = true)
    (derived : Grammar.Elements .rightParen Grammar.Expression ts args n)
    (bounded : ts.length ≤ bound) (passes : la.Passes (.symbol .leftParen :: ts) last) :
    ∃ fs, arguments expression la = .ok (fs, last) ∧ fs.map bare = args := by
  have starts : ∀ {ts f}, Grammar.Expression ts f n →
      ∃ t us, ts = t :: us ∧ t ≠ .symbol .rightParen := by
    intro ts f h
    obtain ⟨t, us, rfl, first⟩ := h.starts
    refine ⟨t, us, rfl, ?_⟩
    rintro rfl
    cases first
  obtain ⟨next, opened, passes⟩ := passes_cons.mp passes
  obtain ⟨fs, answered, eq⟩ :=
    complete.elements (by decide) starts closes commas derived bounded passes rfl
  refine ⟨fs, ?_, eq⟩
  rw [arguments, expect_eq_ok.mpr opened, ok_bind, answered]

/-! The first two names of an attribute decide how to go on. -/

theorem attributeOrCall_eq {entity field : String}
    (passes : la.Passes [.name entity, .symbol .dot, .name field] last) :
    attributeOrCall expression la =
      if entity = "re" then patternCall expression field la.offset last
      else attributeOrMethod expression entity field la.offset last := by
  obtain ⟨after, named, passes⟩ := passes_cons.mp passes
  obtain ⟨next, dot, named'⟩ := passes_cons.mp passes
  simp only [attributeOrCall, name_eq_ok.mpr named, ok_bind,
    if_neg (dot.not_sees (s := .leftParen) (by decide)), dot.sees, Bool.not_true,
    Bool.false_eq_true, if_false, (advance_eq_ok dot.sees).mpr dot, name_eq_ok.mpr named']

theorem attributeOrMethod_eq {entity field : String} {offset : Nat} {found : Option Subscript}
    (h : Grammar.Subscripted ts found) (passes : la.Passes ts last)
    (stop : last.token ≠ .symbol .leftBracket) :
    attributeOrMethod expression entity field offset la =
      withoutMember expression { entity, field, subscript := found, member := none, offset }
        last := by
  rw [attributeOrMethod, subscript?_complete h passes stop, ok_bind]

theorem withoutMember_eq {path : AttributePath} {name : String}
    (passes : la.Passes [.symbol .dot, .name name] last)
    (stop : last.token ≠ .symbol .leftParen) :
    withoutMember expression path la =
      withMember expression { path with member := some name } last := by
  obtain ⟨next, dot, named⟩ := passes_cons.mp passes
  have unseen : ¬ last.sees .leftParen = true := fun seen => stop (sees_iff.mp seen)
  rw [withoutMember, if_pos dot.sees, access, (advance_eq_ok dot.sees).mpr dot, ok_bind,
    name_eq_ok.mpr named, ok_bind]
  dsimp only
  rw [if_neg unseen]
  rfl

/-- **Behind an attribute the reader is where its member is**, read or not. -/
theorem attributeOrCall_path {path : AttributePath} (h : Grammar.Path ts path)
    (passes : la.Passes ts last) (noBracket : last.token ≠ .symbol .leftBracket)
    (noParen : last.token ≠ .symbol .leftParen) :
    attributeOrCall expression la = withMember expression { path with offset := la.offset } last ∨
      attributeOrCall expression la =
        withoutMember expression { path with offset := la.offset } last := by
  cases h with
  | @of entity field ts us found member ne subscripted membered =>
    have split : la.Passes ([.name entity, .symbol .dot, .name field] ++ (ts ++ us)) last := passes
    obtain ⟨mid, front, rest⟩ := passes_append.mp split
    obtain ⟨after, bracketed, behind⟩ := passes_append.mp rest
    rw [attributeOrCall_eq front, if_neg ne]
    cases membered with
    | none =>
      obtain rfl := passes_nil.mp behind
      exact .inr (attributeOrMethod_eq subscripted bracketed noBracket)
    | some name =>
      have dot : after.token ≠ .symbol .leftBracket := by
        rw [behind.token_eq]
        decide
      left
      rw [attributeOrMethod_eq subscripted bracketed dot, withoutMember_eq behind noParen]

theorem access_method {path : AttributePath} {name : String} {function : Function}
    {args : List Filter}
    (complete : Complete bound follow expression bare fun ts f => Grammar.Expression ts f n)
    (closes : follow (.symbol .rightParen) = true) (commas : follow (.symbol .comma) = true)
    (known : (name, function) ∈ Grammar.methods)
    (derived : Grammar.Elements .rightParen Grammar.Expression ts args n)
    (bounded : ts.length ≤ bound)
    (passes : la.Passes (.symbol .dot :: .name name :: .symbol .leftParen :: ts) last)
    (stop : continuesAttribute last.token = false) :
    ∃ fs, access expression path la =
        .ok (.inl (.call function (.attribute path :: fs) path.offset), last) ∧
      fs.map bare = args := by
  obtain ⟨next, dot, passes⟩ := passes_cons.mp passes
  obtain ⟨mid, named, passes⟩ := passes_cons.mp passes
  obtain ⟨fs, answered, eq⟩ := arguments_complete complete closes commas derived bounded passes
  refine ⟨fs, ?_, eq⟩
  rw [access, (advance_eq_ok dot.sees).mpr dot, ok_bind, name_eq_ok.mpr named, ok_bind]
  dsimp only
  rw [if_pos passes.sees, mem_methods.mp known]
  dsimp only
  rw [answered, ok_bind, complete_of_stop _ stop]
  rfl

/-- **An attribute or a call is read to its end** if nothing follows that would continue it. -/
theorem attributeOrCall_complete {f : Filter}
    (complete : Complete bound follow expression bare fun ts f => Grammar.Expression ts f n)
    (closes : follow (.symbol .rightParen) = true) (commas : follow (.symbol .comma) = true)
    (derived : Grammar.Operand ts f n) (bounded : ts.length ≤ bound + 1)
    (passes : la.Passes ts last) (named : ∃ s, la.token = .name s)
    (stop : continuesAttribute last.token = false) :
    ∃ f', attributeOrCall expression la = .ok (f', last) ∧ f'.bare = f := by
  obtain ⟨s, named⟩ := named
  cases derived with
  | constant h =>
    cases h
    cases passes.token_eq.symm.trans named
  | list => cases passes.token_eq.symm.trans named
  | group => cases passes.token_eq.symm.trans named
  | @path _ _ path h =>
    have bare_path : { path with offset := 0 } = path := by
      cases h
      rfl
    obtain ⟨noBracket, noParen, noDot⟩ := continuesAttribute_eq_false.mp stop
    have unseen : ¬ last.sees .dot = true := fun seen => noDot (sees_iff.mp seen)
    refine ⟨.attribute { path with offset := la.offset }, ?_, congrArg _ bare_path⟩
    rcases attributeOrCall_path h passes noBracket noParen with eq | eq
    · rw [eq, withMember, if_neg unseen, complete_of_stop _ stop]
    · rw [eq, withoutMember, if_neg unseen, complete_of_stop _ stop]
  | @method _ ts us path name function args h known derived =>
    have bare_path : { path with offset := 0 } = path := by
      cases h
      rfl
    obtain ⟨mid, front, behind⟩ := passes_append.mp passes
    simp only [List.length_append, List.length_cons] at bounded
    obtain ⟨fs, answered, eq⟩ := access_method complete closes commas known derived (by omega)
      behind stop
    refine ⟨.call function (.attribute { path with offset := la.offset } :: fs) la.offset, ?_, ?_⟩
    · have noBracket : mid.token ≠ .symbol .leftBracket := by
        rw [behind.token_eq]
        decide
      have noParen : mid.token ≠ .symbol .leftParen := by
        rw [behind.token_eq]
        decide
      rcases attributeOrCall_path h front noBracket noParen with eq | eq
      · rw [eq, withMember, if_pos behind.sees, answered, ok_bind]
        rfl
      · rw [eq, withoutMember, if_pos behind.sees, answered, ok_bind]
        rfl
    · rw [bare, bareAll, bareAll_eq_map, eq, bare, bare_path]
  | @pattern _ us name function args known derived =>
    have split : la.Passes ([.name "re", .symbol .dot, .name name] ++ .symbol .leftParen :: us)
      last := passes
    obtain ⟨mid, front, behind⟩ := passes_append.mp split
    simp only [List.length_cons] at bounded
    obtain ⟨fs, answered, eq⟩ := arguments_complete complete closes commas derived (by omega) behind
    refine ⟨.call function fs la.offset, ?_, ?_⟩
    · rw [attributeOrCall_eq front, if_pos rfl, patternCall, mem_patternFunctions.mp known]
      dsimp only
      rw [answered, ok_bind, complete_of_stop _ stop]
    · rw [bare, bareAll_eq_map, eq]

end

end RunFilter.Filter
