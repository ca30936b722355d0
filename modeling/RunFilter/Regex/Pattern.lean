import RunFilter.Regex.CharSet

/-!
# Patterns

What a regular expression says: sets of characters and conditions on places, one behind the other,
as alternatives and repeated. A pattern is only asked whether there is a match. How it is written
and which of several matches it prefers are kept for the limits that expressions have.
-/

set_option autoImplicit false

namespace RunFilter.Regex

/-! ## Conditions on a place -/

/-- How the characters around a place belong to words. -/
inductive WordEdge where
  /-- One of them belongs to a word and the other does not. -/
  | either
  /-- Both do, or none. -/
  | neither
  | start
  | finish
  /-- The one before does not. -/
  | startHalf
  /-- The one behind does not. -/
  | finishHalf
  deriving DecidableEq, Repr

/-- Whether the edge is at a place, from whether the characters before and behind belong to words. -/
def WordEdge.holds (before after : Bool) : WordEdge → Bool
  | .either => before != after
  | .neither => before == after
  | .start => !before && after
  | .finish => before && !after
  | .startHalf => !before
  | .finishHalf => !after

/-- A condition on a place in a text. Where lines end with a carriage return and a line feed, no
line ends between the two. -/
inductive Assertion where
  | startOfText
  | endOfText
  | startOfLine (crlf : Bool)
  | endOfLine (crlf : Bool)
  | word (characters : CharSet) (edge : WordEdge)
  deriving DecidableEq, Repr

/-- **Whether a condition is met** between two characters, either of which is missing at an end of
the text. -/
def Assertion.holds (before after : Option Char) : Assertion → Bool
  | .startOfText => before.isNone
  | .endOfText => after.isNone
  | .startOfLine false => before.isNone || before == some '\n'
  | .startOfLine true =>
    before.isNone || before == some '\n' || (before == some '\r' && after != some '\n')
  | .endOfLine false => after.isNone || after == some '\n'
  | .endOfLine true =>
    after.isNone || after == some '\r' || (after == some '\n' && before != some '\r')
  | .word characters edge =>
    edge.holds (before.any fun c => characters.holds c.toNat)
      (after.any fun c => characters.holds c.toNat)

/-! ## Patterns -/

/-- A set of characters, as it is written. -/
structure CharClass where
  set : CharSet
  /-- Whether it is a set of characters of all scripts, not of ASCII alone. -/
  unicode : Bool := true
  /-- How deep the brackets nest that it is written in. -/
  depth : Nat := 0
  deriving DecidableEq, Repr

/-- A pattern. -/
inductive Pattern where
  | empty
  | chars (c : CharClass)
  | assertion (a : Assertion)
  /-- A part in parentheses, which may be kept apart in what is found. -/
  | group (kept : Bool) (p : Pattern)
  | seq (p q : Pattern)
  | alt (p q : Pattern)
  /-- The pattern repeated, at least and at most so many times, few times preferred or many. -/
  | times (p : Pattern) (least : Nat) (most : Option Nat) (few : Bool)
  deriving DecidableEq, Repr

namespace Pattern

/-- Patterns one behind the other. -/
def sequence : List Pattern → Pattern
  | [] => .empty
  | [p] => p
  | p :: ps => .seq p (sequence ps)

/-- A first pattern and the alternatives to it. -/
def choice (p : Pattern) : List Pattern → Pattern
  | [] => p
  | q :: qs => .alt p (choice q qs)

/-! ## Repetitions -/

/-- Whether a pattern can be seen to take no character. -/
def takesNothing : Pattern → Bool
  | .empty | .assertion _ => true
  | .chars _ => false
  | .group _ p => p.takesNothing
  | .seq p q | .alt p q => p.takesNothing && q.takesNothing
  | .times p _ most _ => most == some 0 || p.takesNothing

/-- **A pattern repeated.** One that takes no character need not be met more than once. -/
def repeated (p : Pattern) (least : Nat) (most : Option Nat) (few : Bool) : Pattern :=
  if p.takesNothing then .times p (min least 1) (some (min (most.getD 1) 1)) few
  else .times p least most few

/-! ## Limits -/

/-- The number of nodes of the longest branch. A sequence is one node, however long, and so are
alternatives. The brackets of a class nest too. -/
def depth : Pattern → Nat
  | .empty | .assertion _ => 0
  | .chars c => c.depth
  | .group _ p => p.depth + 1
  | .seq p (.seq q r) => max (p.depth + 1) (Pattern.seq q r).depth
  | .seq p q => max p.depth q.depth + 1
  | .alt p (.alt q r) => max (p.depth + 1) (Pattern.alt q r).depth
  | .alt p q => max p.depth q.depth + 1
  | .times p _ _ _ => p.depth + 1

/-- The deepest pattern that is accepted. -/
def depthLimit : Nat := 250

end Pattern

end RunFilter.Regex
