import RunFilter.Proofs.Parsing.Attribute

/-!
# Where filters open

An attribute, a call and a comparison keep the place where they begin. A part of a filter is read
from a place on, and this is its own place, unless it is in parentheses: then the parentheses stand
in front of it, and nothing else.

**The law** (`opens_expressionWithin`): whatever a reader of filters answers opens where the reader
began (`Filter.OpensAt`). Each level of the grammar hands this on from the level below: what it puts
together of several parts keeps no place of its own, and a chain of one comparison keeps the place
of its first operand.
-/

set_option autoImplicit false

namespace RunFilter

namespace Filter

open Lookahead

/-- The place that a filter keeps for itself, if it keeps one. -/
def place? : Filter → Option Nat
  | .attribute path => some path.offset
  | .call _ _ place | .comparison _ _ _ place => some place
  | .literal _ | .list _ | .boolean _ _ => none

/-- **A filter opens at a place**: it is the place that the filter keeps, or a parenthesis opens
there, and behind it the filter. -/
inductive OpensAt (f : Filter) : Lookahead → Prop
  | here {la : Lookahead} (own : ∀ place ∈ f.place?, place = la.offset) : OpensAt f la
  | group {la next : Lookahead} (opened : la.Passes [.symbol .leftParen] next)
      (inner : OpensAt f next) : OpensAt f la

/-- **A reader whose answers open where it begins.** -/
def Opens (read : Reader Filter) : Prop :=
  ∀ ⦃la last : Lookahead⦄ ⦃f : Filter⦄, read la = .ok (f, last) → f.OpensAt la

variable {la last : Lookahead} {f : Filter}

/-- What keeps no place opens anywhere. -/
theorem opensAt_of_none (none : f.place? = none) : f.OpensAt la :=
  .here fun _ mem => nomatch none.symm.trans mem

theorem opensAt_of_some (own : f.place? = some la.offset) : f.OpensAt la :=
  .here fun _ mem => Option.some.inj (mem.symm.trans own)

/-! ## Attributes and calls -/

section

variable {expression : Reader Filter} {path : AttributePath}

theorem place?_access {found : Filter ⊕ String} (h : access expression path la = .ok (found, last))
    (whole : found = .inl f) : f.place? = some path.offset := by
  obtain ⟨_, _, h⟩ := bind_eq_ok.mp h
  obtain ⟨⟨name, _⟩, _, h⟩ := bind_eq_ok.mp h
  dsimp only at h
  split at h
  · split at h
    · cases h
    next function _ =>
      obtain ⟨⟨args, _⟩, _, h⟩ := bind_eq_ok.mp h
      obtain ⟨⟨whole', _⟩, ended, h⟩ := bind_eq_ok.mp h
      obtain ⟨rfl, rfl⟩ := complete_of_ok ended
      cases h
      cases whole
      rfl
  · cases h
    cases whole

theorem place?_withMember (h : withMember expression path la = .ok (f, last)) :
    f.place? = some path.offset := by
  unfold withMember at h
  split at h
  · obtain ⟨⟨found, _⟩, read, h⟩ := bind_eq_ok.mp h
    cases found with
    | inl whole =>
      cases h
      exact place?_access read rfl
    | inr name => cases h
  · obtain ⟨rfl, rfl⟩ := complete_of_ok h
    rfl

theorem place?_withoutMember (h : withoutMember expression path la = .ok (f, last)) :
    f.place? = some path.offset := by
  unfold withoutMember at h
  split at h
  · obtain ⟨⟨found, _⟩, read, h⟩ := bind_eq_ok.mp h
    cases found with
    | inl whole =>
      cases h
      exact place?_access read rfl
    | inr name =>
      have own := place?_withMember h
      exact own
  · obtain ⟨rfl, rfl⟩ := complete_of_ok h
    rfl

theorem place?_patternCall {name : String} {offset : Nat}
    (h : patternCall expression name offset la = .ok (f, last)) : f.place? = some offset := by
  unfold patternCall at h
  split at h
  · cases h
  · obtain ⟨⟨args, _⟩, _, h⟩ := bind_eq_ok.mp h
    obtain ⟨rfl, rfl⟩ := complete_of_ok h
    rfl

/-- **An attribute and a call keep the place of their first name.** -/
theorem place?_attributeOrCall (h : attributeOrCall expression la = .ok (f, last)) :
    f.place? = some la.offset := by
  obtain ⟨⟨entity, _⟩, _, h⟩ := bind_eq_ok.mp h
  dsimp only at h
  split at h
  · cases h
  · split at h
    · cases h
    · obtain ⟨_, _, h⟩ := bind_eq_ok.mp h
      obtain ⟨⟨field, _⟩, _, h⟩ := bind_eq_ok.mp h
      dsimp only at h
      split at h
      · exact place?_patternCall h
      · obtain ⟨⟨subscript, _⟩, _, h⟩ := bind_eq_ok.mp h
        exact place?_withoutMember h

end

/-! ## The levels of the grammar -/

section

variable {expression : Nat → Reader Filter} {room : Nat}

theorem opens_operand (opens : ∀ room, Opens (expression room)) (room : Nat) :
    Opens (operand expression room) := by
  intro la last f h
  unfold operand at h
  split at h
  · obtain ⟨⟨value, _⟩, _, h⟩ := bind_eq_ok.mp h
    cases h
    exact opensAt_of_none rfl
  · obtain ⟨_, _, h⟩ := bind_eq_ok.mp h
    obtain ⟨⟨values, _⟩, _, h⟩ := bind_eq_ok.mp h
    cases h
    exact opensAt_of_none rfl
  next token =>
    cases room with
    | zero => cases h
    | succ room =>
      obtain ⟨next, opened, h⟩ := bind_eq_ok.mp h
      obtain ⟨⟨inner, _⟩, read, h⟩ := bind_eq_ok.mp h
      obtain ⟨_, _, h⟩ := bind_eq_ok.mp h
      cases h
      exact .group ((advance_eq_ok (sees_iff.mpr token)).mp opened) (opens room read)
  · exact opensAt_of_some (place?_attributeOrCall h)
  · cases h
  · cases h

/-- The comparisons of a chain keep the places that they begin at, the first one that of the
chain. -/
theorem place?_chainWithin {fuel : Nat} {left : Filter} {offset : Nat} {fs : List Filter}
    (h : chainWithin expression room fuel left offset la = .ok (fs, last)) :
    ∀ f ∈ fs.head?, f.place? = some offset := by
  cases fuel with
  | zero => cases h
  | succ fuel =>
    obtain ⟨⟨found, _⟩, _, h⟩ := bind_eq_ok.mp h
    cases found with
    | none =>
      cases h
      exact nofun
    | some op =>
      obtain ⟨⟨right, _⟩, _, h⟩ := bind_eq_ok.mp h
      obtain ⟨⟨more, _⟩, _, h⟩ := bind_eq_ok.mp h
      cases h
      rintro f ⟨⟩
      rfl

theorem opens_comparisons (opens : Opens (operand expression room)) :
    Opens (comparisons expression room) := by
  intro la last f h
  obtain ⟨⟨first, _⟩, read, h⟩ := bind_eq_ok.mp h
  obtain ⟨⟨chain, _⟩, compared, h⟩ := bind_eq_ok.mp h
  cases h
  have own := place?_chainWithin compared
  unfold ofChain
  split
  · exact opens read
  next only _ => exact opensAt_of_some (own only rfl)
  · exact opensAt_of_none rfl

theorem opens_negation (opens : ∀ room, Opens (operand expression room)) (room : Nat) :
    Opens (negation expression room) := by
  intro la last f h
  unfold negation at h
  split at h
  · cases room with
    | zero => cases h
    | succ room =>
      obtain ⟨_, _, h⟩ := bind_eq_ok.mp h
      obtain ⟨⟨inner, _⟩, _, h⟩ := bind_eq_ok.mp h
      cases h
      exact opensAt_of_none rfl
  · exact opens_comparisons (opens room) h

theorem opens_joined {word : Symbol} {op : Connective} {part : Reader Filter}
    (opens : Opens part) : Opens (joined word op part) := by
  intro la last f h
  obtain ⟨⟨first, _⟩, read, h⟩ := bind_eq_ok.mp h
  obtain ⟨⟨more, _⟩, _, h⟩ := bind_eq_ok.mp h
  cases h
  cases more with
  | nil => exact opens read
  | cons second more => exact opensAt_of_none rfl

end

/-- **Filters open where they are read from.** -/
theorem opens_expressionWithin (fuel room : Nat) : Opens (expressionWithin fuel room) := by
  induction fuel generalizing room with
  | zero =>
    intro la last f h
    cases h
  | succ fuel ih => exact opens_joined (opens_joined (opens_negation (opens_operand ih) room))

end Filter

end RunFilter
