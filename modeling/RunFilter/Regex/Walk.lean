import RunFilter.Regex.Pattern

/-!
# Patterns laid against a text

A pattern is searched for by following at once all the ways through it. For that it is laid
against the text: every set of characters becomes the set of the places at which it has the next
character, every condition the set of the places that meet it. A walk then takes a set of places
to the set of the places that can be reached from one of them.

A set of places is a number whose bit `i` is set if the place behind the first `i` characters
belongs to it.
-/

set_option autoImplicit false

namespace RunFilter.Regex

/-- A set of places in a text. -/
abbrev Places := Nat

namespace Places

/-- The place at the beginning. -/
def first : Places := 1

/-- The places in front of a character with a property. -/
def before (holds : Char → Bool) : List Char → Places
  | [] => 0
  | c :: cs => (holds c).toNat + 2 * before holds cs

/-- The places between two characters that have a property together; one of them is missing at an
end of the text. -/
def between (holds : Option Char → Option Char → Bool) (last : Option Char) : List Char → Places
  | [] => (holds last none).toNat
  | c :: cs => (holds last (some c)).toNat + 2 * between holds (some c) cs

/-- All places in a text, the end included. -/
def all (text : List Char) : Places := between (fun _ _ => true) none text

end Places

/-- A pattern laid against a text. -/
inductive Walk where
  /-- Goes on at these places only. -/
  | stay (places : Places)
  /-- Goes on behind the character in front of which it is, at these places only. -/
  | step (places : Places)
  | seq (p q : Walk)
  | alt (p q : Walk)
  | times (p : Walk) (least : Nat) (most : Option Nat)
  deriving Repr

/-- **A pattern laid against a text.** -/
def Pattern.over (text : List Char) : Pattern → Walk
  | .empty => .stay (Places.all text)
  | .chars c => .step (Places.before (fun a => c.set.holds a.toNat) text)
  | .assertion a => .stay (Places.between (fun before after => a.holds before after) none text)
  | .group _ p => p.over text
  | .seq p q => .seq (p.over text) (q.over text)
  | .alt p q => .alt (p.over text) (q.over text)
  | .times p least most _ => .times (p.over text) least most

namespace Walk

/-- What is reached by going at most `count` times. -/
def atMost (go : Places → Places) : Nat → Places → Places
  | 0, s => s
  | count + 1, s => s ||| atMost go count (go s)

/-- What is reached by going any number of times: places are added until there is none to add, in
at most `fuel` rounds. -/
def closure (go : Places → Places) : Nat → Places → Places
  | 0, s => s
  | fuel + 1, s =>
    let wider := s ||| go s
    if wider = s then s else closure go fuel wider

/-- **The places that are reached** from a set of places in a text of a given length. Every round
of a closure but the last adds a place, so their number is bounded by that of all places. -/
def reach (length : Nat) : Walk → Places → Places
  | .stay places, s => s &&& places
  | .step places, s => (s &&& places) <<< 1
  | .seq p q, s => q.reach length (p.reach length s)
  | .alt p q, s => p.reach length s ||| q.reach length s
  | .times p least most, s =>
    let reached := Nat.repeat (p.reach length) least s
    match most with
    | none => closure (p.reach length) (length + 1) reached
    | some most => atMost (p.reach length) (most - least) reached

end Walk

namespace Pattern

/-- The places that a pattern reaches from a set of places in a text. -/
def reach (p : Pattern) (text : List Char) (s : Places) : Places :=
  (p.over text).reach text.length s

/-- **Whether a pattern is found** anywhere in a text. -/
def isFoundIn (p : Pattern) (text : List Char) : Bool := p.reach text (Places.all text) != 0

/-- **Whether a pattern matches** at the beginning of a text. -/
def startsIn (p : Pattern) (text : List Char) : Bool := p.reach text Places.first != 0

end Pattern

end RunFilter.Regex
