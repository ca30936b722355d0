import RunFilter.Regex.Pattern

/-!
# Reduced patterns

A pattern comes to less than what is written. Texts one behind the other are one text, alternatives
that are all one character, or all a set of characters, are one set, and what all alternatives begin
with is met once, in front of what is left of them. Parentheses that are not kept apart leave
nothing.

A reduced pattern is made by functions that take reduced parts: a sequence has no sequence, no empty
part and no two texts side by side in it, and an alternative is no choice itself.
-/

set_option autoImplicit false

namespace RunFilter.Regex

/-- What a pattern comes to. -/
inductive Reduced where
  | nothing
  /-- Characters one behind the other, at least one. -/
  | text (characters : List Nat)
  /-- One character of canonical ranges. -/
  | set (unicode : Bool) (ranges : Text.Ranges)
  | look (a : Assertion)
  /-- A part that is kept apart in what is found. -/
  | kept (p : Reduced)
  | times (p : Reduced) (least : Nat) (most : Option Nat) (few : Bool)
  | seq (p q : Reduced)
  | alt (p q : Reduced)
  deriving DecidableEq, Repr

namespace Reduced

/-! ## Sequences -/

/-- The parts one behind the other. -/
def items : Reduced → List Reduced
  | .nothing => []
  | .seq p q => p :: q.items
  | p => [p]

/-- A part that is no sequence in front of another. -/
def before : Reduced → Reduced → Reduced
  | .nothing, q => q
  | p, .nothing => p
  | .text a, .text b => .text (a ++ b)
  | .text a, .seq (.text b) q => .seq (.text (a ++ b)) q
  | p, q => .seq p q

/-- **Parts one behind the other.** -/
def sequence (ps : List Reduced) : Reduced :=
  ps.foldr (fun p behind => p.items.foldr before behind) .nothing

/-! ## Alternatives -/

/-- The alternatives. -/
def branches : Reduced → List Reduced
  | .alt p q => p :: q.branches
  | p => [p]

/-- The alternatives as they are; without one nothing matches. -/
def ofBranches : List Reduced → Reduced
  | [] => .set false []
  | [p] => p
  | p :: ps => .alt p (ofBranches ps)

/-- One character of a set. -/
def ofRanges (unicode : Bool) : Text.Ranges → Reduced
  | [] => .set false []
  | [(low, high)] => if low = high then .text [low] else .set unicode [(low, high)]
  | ranges => .set unicode ranges

/-- The character of a part that is one. -/
def character? : Reduced → Option Nat
  | .text [n] => some n
  | _ => none

/-- The ranges of a part that is a set. -/
def ranges? : Reduced → Option Text.Ranges
  | .set _ ranges => some ranges
  | _ => none

/-- **Alternatives that are all characters, or all sets, as one set.** -/
def joined? (ps : List Reduced) : Option Reduced :=
  let sets := (ps.mapM character?).map (·.map fun n => [(n, n)]) <|> ps.mapM ranges?
  sets.map fun sets => ofRanges true (Text.Ranges.canonical sets.flatten)

/-- Alternatives, with those of a choice among them in its place. -/
def choice (ps : List Reduced) : Reduced :=
  let ps := ps.flatMap branches
  (joined? ps).getD (ofBranches ps)

/-- Whether a part of it is kept apart. -/
def keeps : Reduced → Bool
  | .kept _ => true
  | .nothing | .text _ | .set _ _ | .look _ => false
  | .times p _ _ _ => p.keeps
  | .seq p q | .alt p q => p.keeps || q.keeps

/-- What two sequences begin with. Parts that are kept apart are never the same. -/
def shared : List Reduced → List Reduced → List Reduced
  | p :: ps, q :: qs => if p = q && !p.keeps then p :: shared ps qs else []
  | _, _ => []

/-- What all alternatives begin with, if each is a sequence of several parts. -/
def beginning (ps : List Reduced) : List Reduced :=
  match ps.map items with
  | first :: rest =>
    if (first :: rest).all (1 < ·.length) then rest.foldl shared first else []
  | [] => []

/-- **Alternatives**, with what they begin with in front. -/
def alternatives : List Reduced → Reduced
  | [p] => p
  | ps =>
    let ps := ps.flatMap branches
    let front := if (joined? ps).isSome then [] else beginning ps
    if front.isEmpty then choice ps
    else sequence (front ++ [choice (ps.map fun p => sequence (p.items.drop front.length))])

/-! ## Patterns -/

/-- **A part repeated.** -/
def repeated (p : Reduced) (least : Nat) (most : Option Nat) (few : Bool) : Reduced :=
  if most == some 0 then .nothing
  else if least == 1 && most == some 1 then p
  else .times p least most few

/-- The alternatives of a pattern, each reduced. -/
def ofBranch : Pattern → List Reduced
  | .empty => [.nothing]
  | .chars c => [ofRanges c.unicode c.set.toRanges]
  | .assertion a => [.look a]
  | .group true p => [.kept (alternatives (ofBranch p))]
  | .group false p => [alternatives (ofBranch p)]
  | .seq p q => [sequence [alternatives (ofBranch p), alternatives (ofBranch q)]]
  | .alt p q => alternatives (ofBranch p) :: ofBranch q
  | .times p least most few => [repeated (alternatives (ofBranch p)) least most few]

/-- **What a pattern comes to.** -/
def ofPattern (p : Pattern) : Reduced := alternatives (ofBranch p)

end Reduced

end RunFilter.Regex
