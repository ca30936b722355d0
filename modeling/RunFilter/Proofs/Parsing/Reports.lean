import RunFilter.Proofs.FirstMistake
import RunFilter.Proofs.Parsing.Filter
import RunFilter.Proofs.Parsing.Openings
import RunFilter.Proofs.Parsing.Spots

/-!
# What reading reports

A reader of filters meets tokens one by one. `Reported s` are the mistakes that it may report for
`s`: the mistake that the tokens of `s` end with, a mistake at a token of `s`, or one about a path
whose entity stands in `s`. `Filter.PlacedIn s` says that the places in a filter are those of its
parts in `s`.

Every reader keeps to this (`Safe`): in view of `s`, it answers with parts placed in `s` and is
still in view of `s`, or its mistake is reported for `s`. The readers are walked through once, for
both results, with one rule for what is read one after the other (`Within.bind`).

**The law** (`parse_agrees_tokenize`): a text is read only if it has tokens; a mistake in its
characters is the one that its tokens end with; and where the tokens end with a mistake, reading
reports this one, or one of the grammar in front of it.
-/

set_option autoImplicit false

namespace RunFilter

/-! ## Mistakes and places of a text -/

/-- **The entity of a path stands in the text** where the path says. -/
def AttributePath.PlacedIn (s : String) (p : AttributePath) : Prop :=
  ∃ before after, TokenIn s (.name p.entity) before p.entity.toList after ∧
    Text.byteLength before = p.offset

/-- What a reader has against a path: a function that `re` has not, or a member of a member. -/
inductive Misread : AttributePath → Fault → Prop
  | function (p : AttributePath) (pattern : p.entity = "re") :
      Misread p (.unsupportedPatternFunction p.field)
  | member (p : AttributePath) (name : String) : Misread p (.memberOfMember p.dotted name)

/-- **The mistakes that reading a text may report.** -/
inductive Reported (s : String) : SyntaxError → Prop
  | characters {c : Cursor} {e : SyntaxError} (h : Reached s c)
      (read : c.next.outcome = .error e) : Reported s e
  | token {t : Token} {before lexeme after : List Char} {fault : Fault}
      (h : TokenIn s t before lexeme after)
      (kind : fault.kind = .parse ∨ fault.kind = .malformedSubscript) :
      Reported s (fault.at (Text.byteLength before))
  | path {p : AttributePath} {fault : Fault} (h : p.PlacedIn s) (misread : Misread p fault) :
      Reported s (fault.at p.offset)

namespace Filter

/-- **A comparison stands in the text**: from its place on, the tokens derive its left side, spell
its operator and derive its right side, and each side opens where its tokens begin. -/
def ComparedAt (s : String) (left : Filter) (op : Operator) (right : Filter) (place : Nat) : Prop :=
  ∃ (la mid last : Lookahead) (before lexeme after : List Char) (ts us : List Token)
    (spelling : List Symbol) (n : Nat), la.In s ∧ TokenIn s la.token before lexeme after ∧
      Text.byteLength before = place ∧ la.offset = place ∧
      la.Passes (ts ++ spelling.map .symbol) mid ∧ mid.Passes us last ∧
      Grammar.Operand ts left.bare n ∧ spelling ∈ Grammar.spellings op ∧
      Grammar.Operand us right.bare n ∧ left.OpensAt la ∧ right.OpensAt mid

/-- **A call stands in the text**: a method where its receiver stands, a function of `re` where `re`
stands. -/
inductive CalledAt (s : String) : Function → List Filter → Nat → Prop
  | method {name : String} {function : Function} (known : (name, function) ∈ Grammar.methods)
      {p : AttributePath} (placed : p.PlacedIn s) (arguments : List Filter) :
      CalledAt s function (.attribute p :: arguments) p.offset
  | pattern {name : String} {function : Function}
      (known : (name, function) ∈ Grammar.patternFunctions) {before after : List Char}
      (found : TokenIn s (.name "re") before "re".toList after) (arguments : List Filter) :
      CalledAt s function arguments (Text.byteLength before)

mutual
/-- **The places in a filter are those of its parts in a text.** -/
def PlacedIn (s : String) : Filter → Prop
  | .literal _ | .list _ => True
  | .attribute path => path.PlacedIn s
  | .comparison left op right place =>
    ComparedAt s left op right place ∧ left.PlacedIn s ∧ right.PlacedIn s
  | .boolean _ operands => PlacedAllIn s operands
  | .call function arguments place => CalledAt s function arguments place ∧ PlacedAllIn s arguments
/-- The places in all filters are those of their parts in a text. -/
def PlacedAllIn (s : String) : List Filter → Prop
  | [] => True
  | f :: fs => f.PlacedIn s ∧ PlacedAllIn s fs
end

/-- What reading a text makes: the places are those of the text, and each `not` has one operand. -/
def Good (s : String) (f : Filter) : Prop := f.PlacedIn s ∧ f.Unary

variable {s : String}

theorem placedAllIn_iff {fs : List Filter} : PlacedAllIn s fs ↔ ∀ f ∈ fs, f.PlacedIn s := by
  induction fs with
  | nil => exact ⟨fun _ _ mem => (nomatch mem), fun _ => trivial⟩
  | cons f fs ih => rw [PlacedAllIn, ih, List.forall_mem_cons]

theorem unaryAll_iff {fs : List Filter} : UnaryAll fs ↔ ∀ f ∈ fs, f.Unary := by
  induction fs with
  | nil => exact ⟨fun _ _ mem => (nomatch mem), fun _ => trivial⟩
  | cons f fs ih => rw [UnaryAll, ih, List.forall_mem_cons]

theorem good_boolean {op : Connective} {fs : List Filter} (good : ∀ f ∈ fs, Good s f)
    (fits : op = .not → fs.length = 1) : Good s (.boolean op fs) :=
  ⟨placedAllIn_iff.mpr fun f mem => (good f mem).1, fits,
    unaryAll_iff.mpr fun f mem => (good f mem).2⟩

theorem good_call {function : Function} {fs : List Filter} {place : Nat}
    (called : CalledAt s function fs place) (good : ∀ f ∈ fs, Good s f) :
    Good s (.call function fs place) :=
  ⟨⟨called, placedAllIn_iff.mpr fun f mem => (good f mem).1⟩, trivial⟩

end Filter

/-! ## Results of either kind -/

variable {s : String} {α : Type} {P : α → Prop}

/-- A mistake of the grammar at the token in view. -/
theorem Reported.of_view {la : Lookahead} (h : la.In s) {fault : Fault}
    (kind : fault.kind = .parse ∨ fault.kind = .malformedSubscript) :
    Reported s (fault.at la.offset) := by
  obtain ⟨before, lexeme, after, found, place⟩ := h.tokenIn
  rw [← place]
  exact .token found kind

/-- A mistake of the grammar at a path. -/
theorem Reported.of_path {p : AttributePath} (placed : p.PlacedIn s) {fault : Fault}
    (kind : fault.kind = .parse) : Reported s (fault.at p.offset) := by
  obtain ⟨before, after, found, place⟩ := placed
  rw [← place]
  exact .token found (.inl kind)

namespace Lookahead

variable {la : Lookahead}

theorem In.fail (h : la.In s) {fault : Fault}
    (kind : fault.kind = .parse ∨ fault.kind = .malformedSubscript) :
    Within (Reported s) P (la.fail fault) := .of_view h kind

theorem In.within_advance (h : la.In s) : Within (Reported s) (·.In s) la.advance := by
  cases passed : la.advance with
  | error e =>
    obtain ⟨c, reached, read⟩ := h.advance_error passed
    exact .characters reached read
  | ok next => exact h.advance passed

/-- **An answer with a property, in view of the text.** -/
def Kept (s : String) (good : α → Prop) (answer : α × Lookahead) : Prop :=
  good answer.1 ∧ answer.2.In s

/-- **A reader that is safe on a text**: in view of the text it answers within it, and is still in
view of it. -/
def Safe (s : String) (good : α → Prop) (read : Reader α) : Prop :=
  ∀ ⦃la : Lookahead⦄, la.In s → Within (Reported s) (Kept s good) (read la)

/-- An answer that is there before the view moves on. -/
theorem In.within_pure (h : la.In s) {a : α} (good : P a) :
    Within (Reported s) (Kept s P) (do pure (a, ← la.advance)) :=
  h.within_advance.bind fun _ _ inside => ⟨good, inside⟩

/-! ## Single tokens and lists -/

theorem In.within_expect (h : la.In s) (symbol : Symbol) :
    Within (Reported s) (·.In s) (la.expect symbol) := by
  unfold expect
  split
  · exact h.within_advance
  · exact h.fail (.inl rfl)

theorem safe_name : Safe s (fun _ => True) name := by
  intro la h
  unfold name
  split
  · exact h.within_pure (P := fun _ => True) trivial
  · exact h.fail (.inl rfl)

theorem safe_constant : Safe s (fun _ => True) constant := by
  intro la h
  unfold constant
  split
  · exact h.within_pure (P := fun _ => True) trivial
  · exact h.fail (.inl rfl)

theorem In.within_text (h : la.In s) {otherwise : Token → SyntaxError}
    (reported : ∀ found, Reported s (otherwise found)) :
    Within (Reported s) (Kept s fun _ => True) (text otherwise la) := by
  unfold text
  split
  · exact h.within_pure (P := fun _ => True) trivial
  · exact reported _

theorem safe_elements {close : Symbol} {element : Reader α} (safe : Safe s P element) :
    Safe s (fun xs => ∀ x ∈ xs, P x) (elements close element) := by
  have within : ∀ fuel, Safe s (fun xs => ∀ x ∈ xs, P x) (elementsWithin close element fuel) := by
    intro fuel
    induction fuel with
    | zero => exact fun la h => h.fail (.inl rfl)
    | succ fuel ih =>
      intro la h
      unfold elementsWithin
      split
      · exact h.within_pure (P := fun xs => ∀ x ∈ xs, P x) (List.forall_mem_nil P)
      · refine (safe h).bind ?_
        rintro ⟨x, next⟩ _ ⟨good, inside⟩
        -- What follows an element is read in the same way, whether a comma was passed or not.
        have more : ∀ {behind : Lookahead}, behind.In s →
            Within (Reported s) (Kept s fun xs => ∀ x ∈ xs, P x)
              (elementsWithin close element fuel behind >>= fun rest =>
                pure (x :: rest.1, rest.2)) := by
          intro behind inside
          refine (ih inside).bind ?_
          rintro ⟨xs, last⟩ _ ⟨goods, inside⟩
          exact ⟨List.forall_mem_cons.mpr ⟨good, goods⟩, inside⟩
        dsimp only
        split
        · exact more inside
        · exact (inside.within_expect .comma).bind fun _ _ inside => more inside
  exact fun la h => within la.size h

theorem safe_further {word : Symbol} {operand : Reader α} (safe : Safe s P operand) :
    Safe s (fun xs => ∀ x ∈ xs, P x) (further word operand) := by
  have within : ∀ fuel, Safe s (fun xs => ∀ x ∈ xs, P x) (furtherWithin word operand fuel) := by
    intro fuel
    induction fuel with
    | zero => exact fun la h => h.fail (.inl rfl)
    | succ fuel ih =>
      intro la h
      unfold furtherWithin
      split
      · refine h.within_advance.bind fun next _ inside => ?_
        refine (safe inside).bind ?_
        rintro ⟨x, behind⟩ _ ⟨good, inside⟩
        refine (ih inside).bind ?_
        rintro ⟨xs, last⟩ _ ⟨goods, inside⟩
        exact ⟨List.forall_mem_cons.mpr ⟨good, goods⟩, inside⟩
      · exact ⟨List.forall_mem_nil P, h⟩
  exact fun la h => within la.size h

end Lookahead

namespace Filter

open Lookahead

variable {la : Lookahead}

/-! ## Subscripts -/

theorem safe_contextEntry : Safe s (fun _ => True) contextEntry := by
  intro la h
  unfold contextEntry
  refine (h.within_text fun found => .of_view h (.inr rfl)).bind fun (key, next) _ ⟨_, inside⟩ => ?_
  refine (inside.within_expect .colon).bind fun behind _ inside => ?_
  refine (inside.within_text fun found => .of_view inside (.inr rfl)).bind ?_
  exact fun (value, last) _ ⟨_, inside⟩ => ⟨trivial, inside⟩

theorem safe_context : Safe s (fun _ => True) context := by
  intro la h
  unfold context
  refine h.within_advance.bind fun next _ inside => ?_
  refine (safe_elements safe_contextEntry inside).bind fun (entries, last) _ ⟨_, inside⟩ => ?_
  exact ⟨trivial, inside⟩

/-- What is wrong with a subscript is reported where it opens. -/
theorem safe_contextPart {start : Lookahead} (opened : start.In s) :
    Safe s (fun _ => True) (contextPart start.offset) := by
  intro la h
  unfold contextPart
  split
  · refine (safe_context h).bind fun (found, next) _ ⟨_, inside⟩ => ?_
    dsimp only
    split
    · exact inside.within_advance.bind fun _ _ inside => ⟨trivial, inside⟩
    · exact ⟨trivial, inside⟩
  · split
    · exact ⟨trivial, h⟩
    · exact .of_view opened (.inr rfl)

theorem safe_subscript : Safe s (fun _ => True) subscript := by
  intro la h
  have close : ∀ (name : String) (context : Option Dictionary) {last : Lookahead}, last.In s →
      Within (Reported s) (Kept s fun _ => True)
        (if last.sees .rightBracket then do pure ({ name, context }, ← last.advance)
        else .error (Fault.subscriptNotClosed.at la.offset) :
          Except SyntaxError (Subscript × Lookahead)) := by
    intro name context last inside
    split
    · exact inside.within_pure (P := fun _ => True) trivial
    · exact .of_view h (.inr rfl)
  unfold subscript
  refine h.within_advance.bind fun next _ inside => ?_
  refine (inside.within_text fun found => .of_view h (.inr ?_)).bind
    fun (name, behind) _ ⟨_, inside⟩ => ?_
  · split <;> rfl
  · dsimp only
    split
    · refine inside.within_advance.bind fun mid _ inside => ?_
      exact (safe_contextPart h inside).bind fun (found, last) _ ⟨_, inside⟩ =>
        close name found inside
    · exact close name none inside

theorem safe_subscript? : Safe s (fun _ => True) subscript? := by
  intro la h
  unfold subscript?
  split
  · exact (safe_subscript h).bind fun (found, last) _ ⟨_, inside⟩ => ⟨trivial, inside⟩
  · exact ⟨trivial, h⟩

/-! ## Attributes and calls -/

theorem within_complete (h : la.In s) {f : Filter} (good : Good s f) :
    Within (Reported s) (Kept s (Good s)) (complete f la) := by
  unfold complete
  split
  · exact h.fail (.inl rfl)
  · exact h.fail (.inl rfl)
  · exact h.fail (.inl rfl)
  · exact ⟨good, h⟩

section

variable {expression : Reader Filter}

theorem safe_arguments (safe : Safe s (Good s) expression) :
    Safe s (fun fs => ∀ f ∈ fs, Good s f) (arguments expression) :=
  fun _ h => (h.within_expect .leftParen).bind fun _ _ inside => safe_elements safe inside

theorem safe_access (safe : Safe s (Good s) expression) {path : AttributePath}
    (placed : path.PlacedIn s) :
    Safe s (fun found => ∀ f, found = .inl f → Good s f) (access expression path) := by
  intro la h
  unfold access
  refine h.within_advance.bind fun next _ inside => ?_
  refine (safe_name inside).bind fun (name, behind) _ ⟨_, inside⟩ => ?_
  dsimp only
  split
  · split
    · exact .of_path placed rfl
    next function known =>
      refine (safe_arguments safe inside).bind fun (args, mid) _ ⟨goods, inside⟩ => ?_
      have good : Good s (.call function (.attribute path :: args) path.offset) :=
        good_call (.method (mem_methods.mpr known) placed args)
          (List.forall_mem_cons.mpr ⟨⟨placed, trivial⟩, goods⟩)
      refine (within_complete inside good).bind fun (whole, last) _ ⟨good, inside⟩ => ?_
      refine ⟨?_, inside⟩
      rintro f ⟨⟩
      exact good
  · exact ⟨nofun, inside⟩

theorem safe_withMember (safe : Safe s (Good s) expression) {path : AttributePath}
    (placed : path.PlacedIn s) : Safe s (Good s) (withMember expression path) := by
  intro la h
  unfold withMember
  split
  · refine (safe_access safe placed h).bind fun (found, last) _ ⟨good, inside⟩ => ?_
    cases found with
    | inl whole => exact ⟨good whole rfl, inside⟩
    | inr name => exact .path placed (.member path name)
  · exact within_complete h ⟨placed, trivial⟩

theorem safe_withoutMember (safe : Safe s (Good s) expression) {path : AttributePath}
    (placed : path.PlacedIn s) : Safe s (Good s) (withoutMember expression path) := by
  intro la h
  unfold withoutMember
  split
  · refine (safe_access safe placed h).bind fun (found, last) _ ⟨good, inside⟩ => ?_
    cases found with
    | inl whole => exact ⟨good whole rfl, inside⟩
    | inr name =>
      have placed : AttributePath.PlacedIn s { path with member := some name } := placed
      exact safe_withMember safe placed inside
  · exact within_complete h ⟨placed, trivial⟩

theorem safe_patternCall (safe : Safe s (Good s) expression) (name : String) {start : Lookahead}
    (opened : start.In s) (re : start.token = .name "re") :
    Safe s (Good s) (patternCall expression name start.offset) := by
  intro la h
  obtain ⟨before, after, found, place⟩ := opened.nameIn re
  unfold patternCall
  split
  · let path : AttributePath := ⟨"re", name, none, none, start.offset⟩
    exact .path (p := path) ⟨before, after, found, place⟩ (.function path rfl)
  next function known =>
    refine (safe_arguments safe h).bind fun (args, last) _ ⟨goods, inside⟩ => ?_
    have called := CalledAt.pattern (mem_patternFunctions.mpr known) found args
    rw [place] at called
    exact within_complete inside (good_call called goods)

theorem safe_attributeOrMethod (safe : Safe s (Good s) expression) {entity : String}
    (field : String) {start : Lookahead} (opened : start.In s)
    (named : start.token = .name entity) :
    Safe s (Good s) (attributeOrMethod expression entity field start.offset) := by
  intro la h
  unfold attributeOrMethod
  refine (safe_subscript? h).bind fun (subscript, last) _ ⟨_, inside⟩ => ?_
  have placed : AttributePath.PlacedIn s ⟨entity, field, subscript, none, start.offset⟩ :=
    opened.nameIn named
  exact safe_withoutMember safe placed inside

theorem safe_attributeOrCall (safe : Safe s (Good s) expression) :
    Safe s (Good s) (attributeOrCall expression) := by
  intro la h
  unfold attributeOrCall
  refine (safe_name h).bind fun (entity, next) read ⟨_, inside⟩ => ?_
  have named : la.token = .name entity := (name_eq_ok.mp read).token_eq
  dsimp only
  split
  · exact .of_view h (.inl rfl)
  · split
    · exact inside.fail (.inl rfl)
    · refine inside.within_advance.bind fun behind _ inside => ?_
      refine (safe_name inside).bind fun (field, last) _ ⟨_, inside⟩ => ?_
      dsimp only
      split
      next re => exact safe_patternCall safe field h (re ▸ named) inside
      next => exact safe_attributeOrMethod safe field h named inside

end

/-! ## Comparisons and connectives -/

theorem safe_operator : Safe s (fun _ => True) operator := by
  intro la h
  have one : ∀ op : Operator, Within (Reported s) (Kept s fun _ => True)
      (do pure (some op, ← la.advance) : Except SyntaxError (Option Operator × Lookahead)) :=
    fun op => h.within_pure (P := fun _ => True) trivial
  unfold operator
  dsimp only
  split
  · exact one .equal
  · exact one .notEqual
  · exact one .less
  · exact one .greater
  · exact one .lessEqual
  · exact one .greaterEqual
  · exact one .among
  · refine h.within_advance.bind fun next _ inside => ?_
    split
    · exact inside.within_pure (P := fun _ => True) trivial
    · exact ⟨trivial, inside⟩
  · refine h.within_advance.bind fun next _ inside => ?_
    split
    · exact inside.within_pure (P := fun _ => True) trivial
    · exact inside.fail (.inl rfl)
  · exact ⟨trivial, h⟩

section

variable {expression : Nat → Reader Filter} {room : Nat}

theorem safe_operand (safe : ∀ room, Safe s (Good s) (expression room)) (room : Nat) :
    Safe s (Good s) (operand expression room) := by
  intro la h
  unfold operand
  split
  · exact (safe_constant h).bind fun (value, last) _ ⟨_, inside⟩ =>
      ⟨⟨trivial, trivial⟩, inside⟩
  · refine h.within_advance.bind fun next _ inside => ?_
    exact (safe_elements safe_constant inside).bind fun (values, last) _ ⟨_, inside⟩ =>
      ⟨⟨trivial, trivial⟩, inside⟩
  · cases room with
    | zero => exact h.fail (.inl rfl)
    | succ room =>
      refine h.within_advance.bind fun next _ inside => ?_
      refine (safe room inside).bind fun (inner, behind) _ ⟨good, inside⟩ => ?_
      exact (inside.within_expect .rightParen).bind fun last _ inside => ⟨good, inside⟩
  · exact safe_attributeOrCall (safe room) h
  · exact h.fail (.inl rfl)
  · exact h.fail (.inl rfl)

/-- **The comparisons of a chain.** The left side of each is what was read from `start` on: the
operand before the operator in view. -/
theorem within_chain
    (sound : Sound (operand expression room) bare fun ts f => Grammar.Operand ts f room)
    (opens : Opens (operand expression room)) (safe : Safe s (Good s) (operand expression room))
    {fuel : Nat} {la start : Lookahead} {left : Filter} {ts : List Token} (h : la.In s)
    (good : Good s left) (opened : start.In s) (passes : start.Passes ts la)
    (derived : Grammar.Operand ts left.bare room) (opensAt : left.OpensAt start) :
    Within (Reported s) (Kept s fun fs => ∀ f ∈ fs, Good s f)
      (chainWithin expression room fuel left start.offset la) := by
  induction fuel generalizing la start left ts with
  | zero => exact h.fail (.inl rfl)
  | succ fuel ih =>
    unfold chainWithin
    refine (safe_operator h).bind ?_
    rintro ⟨found, mid⟩ read ⟨-, inside⟩
    obtain ⟨rfl, rfl⟩ | ⟨op, spelling, rfl, spelt, passes'⟩ := operator_sound read
    · exact ⟨List.forall_mem_nil _, inside⟩
    · refine (safe inside).bind ?_
      rintro ⟨right, behind⟩ read' ⟨good', inside'⟩
      obtain ⟨us, passes'', derived'⟩ := sound read'
      -- The right side is the left side of the next comparison, read from `mid` on.
      refine (ih inside' good' inside passes'' derived' (opens read')).bind ?_
      rintro ⟨more, last⟩ _ ⟨goods, inside''⟩
      obtain ⟨before, lexeme, after, found, place⟩ := opened.tokenIn
      have compared : ComparedAt s left op right start.offset :=
        ⟨start, mid, behind, before, lexeme, after, ts, us, spelling, room, opened, found, place,
          rfl, passes.append passes', passes'', derived, spelt, derived', opensAt, opens read'⟩
      exact ⟨List.forall_mem_cons.mpr ⟨⟨⟨compared, good.1, good'.1⟩, trivial⟩, goods⟩, inside''⟩

theorem good_ofChain {first : Filter} {fs : List Filter} (good : Good s first)
    (goods : ∀ f ∈ fs, Good s f) : Good s (ofChain first fs) := by
  unfold ofChain
  split
  · exact good
  · exact goods _ List.mem_cons_self
  · exact good_boolean goods nofun

theorem safe_comparisons
    (sound : Sound (operand expression room) bare fun ts f => Grammar.Operand ts f room)
    (opens : Opens (operand expression room)) (safe : Safe s (Good s) (operand expression room)) :
    Safe s (Good s) (comparisons expression room) := by
  intro la h
  unfold comparisons
  refine (safe h).bind fun (first, after) read ⟨good, inside⟩ => ?_
  obtain ⟨ts, passes, derived⟩ := sound read
  refine (within_chain sound opens safe inside good h passes derived (opens read)).bind
    fun (chain, last) _ ⟨goods, inside⟩ => ?_
  exact ⟨good_ofChain good goods, inside⟩

theorem safe_negation
    (sound : ∀ room, Sound (operand expression room) bare fun ts f => Grammar.Operand ts f room)
    (opens : ∀ room, Opens (operand expression room))
    (safe : ∀ room, Safe s (Good s) (operand expression room)) (room : Nat) :
    Safe s (Good s) (negation expression room) := by
  induction room with
  | zero =>
    intro la h
    unfold negation
    split
    · exact h.fail (.inl rfl)
    · exact safe_comparisons (sound 0) (opens 0) (safe 0) h
  | succ room ih =>
    intro la h
    unfold negation
    split
    · refine h.within_advance.bind fun next _ inside => ?_
      refine (ih inside).bind ?_
      rintro ⟨inner, last⟩ _ ⟨good, inside⟩
      exact ⟨good_boolean (List.forall_mem_singleton.mpr good) fun _ => rfl, inside⟩
    · exact safe_comparisons (sound (room + 1)) (opens (room + 1)) (safe (room + 1)) h

theorem safe_joined (word : Symbol) {op : Connective} (ne : op ≠ .not) {part : Reader Filter}
    (safe : Safe s (Good s) part) : Safe s (Good s) (joined word op part) := by
  intro la h
  unfold joined
  refine (safe h).bind fun (first, next) _ ⟨good, inside⟩ => ?_
  refine (safe_further safe inside).bind fun (more, last) _ ⟨goods, inside⟩ => ?_
  refine ⟨?_, inside⟩
  dsimp only
  split
  · exact good
  · exact good_boolean (List.forall_mem_cons.mpr ⟨good, goods⟩) fun eq => absurd eq ne

end

/-- **The reader of filters is safe on every text.** -/
theorem safe_expressionWithin (fuel room : Nat) :
    Safe s (Good s) (expressionWithin fuel room) := by
  induction fuel generalizing room with
  | zero => exact fun la h => h.fail (.inl rfl)
  | succ fuel ih =>
    have negations := safe_negation (sound_operand (sound_expressionWithin fuel))
      (opens_operand (opens_expressionWithin fuel)) (safe_operand ih) room
    have conjunctions := safe_joined .andWord (show Connective.and ≠ .not by decide) negations
    exact safe_joined .orWord (show Connective.or ≠ .not by decide) conjunctions

/-! ## Whole texts -/

/-- **Reading a text answers within it.** -/
theorem within_ofTokens? (s : String) :
    Within (Reported s) (fun found => ∀ f, found = some f → Good s f)
      (ofTokens? (TokenStream.ofString s)) := by
  have first : Within (Reported s) (·.In s) (TokenStream.ofString s).view := by
    cases view : (TokenStream.ofString s).view with
    | error e => exact .characters .start (Cursor.view_eq_error.mp view)
    | ok la => exact In.of_view view
  unfold ofTokens?
  refine first.bind fun la _ inside => ?_
  split
  · exact nofun
  · refine (safe_expressionWithin la.size maxNesting inside).bind
      fun (filter, last) _ ⟨good, inside⟩ => ?_
    dsimp only
    split
    · rintro f ⟨⟩
      exact good
    · exact inside.fail (.inl rfl)

theorem good_of_parse {f : Filter} (h : parse s = .ok (some f)) : Good s f :=
  (within_ofTokens? s).of_ok (parse_eq_ok.mp h) f rfl

theorem reported_of_parse {e : SyntaxError} (h : parse s = .error e) :
    ∃ e', Reported s e' ∧ e'.inStatement s = e := by
  unfold parse at h
  cases read : ofTokens? (TokenStream.ofString s) with
  | error e' =>
    rw [read] at h
    exact ⟨e', (within_ofTokens? s).of_error read, Except.error.inj h⟩
  | ok found =>
    rw [read] at h
    cases h

/-- A text that is read has tokens. -/
theorem tokenize_of_parse {found : Option Filter} (h : parse s = .ok found) :
    ∃ ts, tokenize s = .ok ts := by
  obtain ⟨la, view, ⟨ended, _⟩ | ⟨_, f, last, _, read, ended⟩⟩ :=
    ofTokens?_eq_ok.mp (parse_eq_ok.mp h)
  · exact ⟨_, tokenize_eq_ok.mpr ⟨la, la, view, .none la, ended⟩⟩
  · obtain ⟨ts, passes, _⟩ := sound_expressionWithin _ _ read
    exact ⟨_, tokenize_eq_ok.mpr ⟨la, last, view, passes, ended⟩⟩

end Filter

theorem Misread.kind {p : AttributePath} {fault : Fault} (h : Misread p fault) :
    fault.kind = .unknownAttribute := by
  cases h <;> rfl

/-- **A mistake that reading reports** is the one that the tokens end with, or one of another
category in front of it. -/
theorem Reported.against_tokenize {e : SyntaxError} (h : Reported s e) :
    tokenize s = .error e ∧ e.kind = .tokenize ∨
      e.kind ≠ .tokenize ∧ ∀ e', tokenize s = .error e' →
        e'.kind = .tokenize ∧ e.offset < e'.offset := by
  cases h with
  | @characters c e reached read =>
    have failed : tokenize s = .error e := by
      rw [reached.tokenize_eq_error_iff, Cursor.stream_of_error read]
      rfl
    obtain ⟨fault, scanned, rfl⟩ := Cursor.next_eq_error.mp read
    exact .inl ⟨failed, Lexeme.kind_of_scan scanned⟩
  | @token t before lexeme after fault found kind =>
    refine .inr ⟨?_, fun e' failed => found.lt_mistake failed⟩
    change fault.kind ≠ .tokenize
    rcases kind with kind | kind <;> simp [kind]
  | @path p fault placed misread =>
    obtain ⟨before, after, found, place⟩ := placed
    refine .inr ⟨?_, fun e' failed => place ▸ found.lt_mistake failed⟩
    change fault.kind ≠ .tokenize
    simp [misread.kind]

namespace Filter

/-- **Reading agrees with the tokens about mistakes in characters.** A text that is read has tokens.
A mistake in characters that reading reports is the one that the tokens end with. If they end with a
mistake, then reading reports this one, or one of another category in front of it. -/
theorem parse_agrees_tokenize (s : String) :
    (∀ found, parse s = .ok found → ∃ ts, tokenize s = .ok ts) ∧
    (∀ e, parse s = .error e → e.kind = .tokenize →
      ∃ e', tokenize s = .error e' ∧ e'.offset = e.offset ∧ e'.message = e.message) ∧
    ∀ e, tokenize s = .error e → ∃ e', parse s = .error e' ∧
      (e' = e.inStatement s ∨ e'.kind ≠ e.kind ∧ e'.offset < e.offset) := by
  refine ⟨fun found => tokenize_of_parse, ?_, ?_⟩
  · intro e failed kind
    obtain ⟨e', reported, rfl⟩ := reported_of_parse failed
    obtain ⟨same, _⟩ | ⟨other, _⟩ := reported.against_tokenize
    · exact ⟨e', same, rfl, rfl⟩
    · exact absurd kind other
  · intro e failed
    cases read : parse s with
    | ok found =>
      obtain ⟨ts, tokens⟩ := tokenize_of_parse read
      rw [tokens] at failed
      cases failed
    | error e' =>
      obtain ⟨e', reported, rfl⟩ := reported_of_parse read
      refine ⟨_, rfl, ?_⟩
      obtain ⟨same, _⟩ | ⟨other, before⟩ := reported.against_tokenize
      · rw [failed] at same
        cases same
        exact .inl rfl
      · obtain ⟨kind, lt⟩ := before e failed
        exact .inr ⟨kind ▸ other, lt⟩

/-- Two mistakes: the tokens end at the `$`, and reading stops in front of it, at a parenthesis that
closes nothing. -/
theorem parse_agrees_tokenize_twoMistakes :
    let s := "run.name == 'é') $"
    tokenize s = .error ((Fault.unexpectedCharacter '$').at 18) ∧
      ∃ e, parse s = .error e ∧ e.kind ≠ .tokenize ∧ e.offset < 18 := by
  intro s
  have tokens : mistake? (tokenize s) = some ((Fault.unexpectedCharacter '$').at 18) := by
    decide +kernel
  have order : (mistake? (parse s)).map SyntaxError.kind = some .parse := by decide +kernel
  rw [mistake?_eq_some] at tokens
  obtain ⟨_, _, later⟩ := parse_agrees_tokenize s
  obtain ⟨e, failed, same | place⟩ := later _ tokens
  · rw [failed, same] at order
    cases order
  · exact ⟨tokens, e, failed, place⟩

end Filter

end RunFilter
