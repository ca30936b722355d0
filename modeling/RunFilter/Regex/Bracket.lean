import RunFilter.Regex.Escape

/-!
# Classes in brackets

A class in brackets is a union of characters, ranges, escapes and further classes; such unions may
be intersected and subtracted, from left to right. A class, a union of several members and a
combination of two unions are a node each in what is written.
-/

set_option autoImplicit false

namespace RunFilter.Regex.Bracket

/-! ## Members -/

/-- One end of a range, or a member of its own. -/
def item (flags : Flags) : Reader Escape
  | '\\' :: cs => Escape.read flags cs
  | c :: cs => some (.literal c, cs)
  | [] => none

/-- A character in a class. A class of ASCII has no others. -/
def character? (flags : Flags) : Escape → Option Char
  | .literal c => if flags.unicode || c.toNat < 0x80 then some c else none
  | _ => none

/-- An item as a set. A condition on a place is none. -/
def asSet? (flags : Flags) : Escape → Option CharSet
  | .chars set => some set
  | escape => (character? flags escape).map .single

/-- **A character, a range or an escape.** A hyphen is no range where the class ends behind it,
nor where another hyphen follows. -/
def member (flags : Flags) : Reader CharSet := fun cs => do
  let (first, cs) ← item flags cs
  match flags.skip cs with
  | [] => none
  | '-' :: cs =>
    match flags.skip cs with
    | [] => none
    | ']' :: _ | '-' :: _ => pure (← asSet? flags first, '-' :: cs)
    | behind =>
      let (last, cs) ← item flags behind
      let low ← character? flags first
      let high ← character? flags last
      if low ≤ high then pure (.between low high, cs) else none
  | cs => pure (← asSet? flags first, cs)

/-- A class from its members. Characters that count as the same are added before the class is turned
round. -/
def closing? (flags : Flags) (negated : Bool) (set : CharSet) : Option CharSet :=
  flags.restrict? (if negated then .complement (flags.fold set) else flags.fold set)

/-- A set named between colons, behind the opening bracket, and whether it is negated. -/
def named : Reader (Bool × CharSet)
  | ':' :: cs => do
    let (negated, cs) := match cs with
      | '^' :: cs => (true, cs)
      | cs => (false, cs)
    let set ← CharSet.named? (String.ofList (cs.takeWhile (· != ':')))
    match cs.dropWhile (· != ':') with
    | ':' :: ']' :: cs => pure ((negated, set), cs)
    | _ => none
  | _ => none

/-! ## Unions and their combinations -/

/-- A union that is being read, and what it is to be combined with. -/
structure Union where
  left : CharSet := .empty
  /-- The depth of what stands on the left, if there is anything. -/
  leftDepth : Option Nat := none
  operation : SetOperation := .union
  members : CharSet := .empty
  /-- The number of the members. -/
  count : Nat := 0
  /-- The depth of the deepest member. -/
  memberDepth : Nat := 0
  deriving Repr

namespace Union

/-- One more member. -/
def add (u : Union) (set : CharSet) (depth : Nat) : Union :=
  { u with
    members := u.members.union set
    count := u.count + 1
    memberDepth := max u.memberDepth depth }

/-- The union combined with what stands on its left. -/
def combined (flags : Flags) (u : Union) : CharSet :=
  .combine u.operation (flags.fold u.left) (flags.fold u.members)

/-- The number of nodes of the longest branch. A union of one member is no node of its own. -/
def depth (u : Union) : Nat :=
  let own := if u.count < 2 then u.memberDepth else u.memberDepth + 1
  match u.leftDepth with
  | some left => max left own + 1
  | none => own

/-- The next union is to be combined with this one. -/
def next (flags : Flags) (operation : SetOperation) (u : Union) : Union :=
  { left := u.combined flags, leftDepth := some u.depth, operation }

end Union

/-- The hyphens at the beginning of a class, which stand for themselves, and what follows them. -/
def hyphens (flags : Flags) : Nat → Union → List Char → Union × List Char
  | 0, u, cs => (u, cs)
  | fuel + 1, u, cs =>
    match cs with
    | '-' :: cs => hyphens flags fuel (u.add (.single '-') 0) (flags.skip cs)
    | cs => (u, cs)

/-- **The beginning of a class**, behind its bracket: whether it is negated, and the members that
mean something else further on. -/
def opening (flags : Flags) (cs : List Char) : Bool × Union × List Char :=
  let cs := flags.skip cs
  let (negated, cs) := match cs with
    | '^' :: cs => (true, flags.skip cs)
    | cs => (false, cs)
  match hyphens flags cs.length {} cs with
  | (u, ']' :: cs) =>
    if u.count = 0 then (negated, u.add (.single ']') 0, cs) else (negated, u, ']' :: cs)
  | (u, cs) => (negated, u, cs)

/-- The members up to the closing bracket, where each takes a character and there are fewer than
`fuel`. -/
def body (flags : Flags) : Nat → Union → Reader Union
  | 0, _, _ => none
  | fuel + 1, u, cs =>
    match flags.skip cs with
    | [] => none
    | ']' :: cs => some (u, cs)
    | '&' :: '&' :: cs => body flags fuel (u.next flags .intersection) cs
    | '-' :: '-' :: cs => body flags fuel (u.next flags .difference) cs
    | '~' :: '~' :: cs => body flags fuel (u.next flags .symmetricDifference) cs
    | '[' :: cs =>
      match named cs with
      | some ((negated, set), cs) => do body flags fuel (u.add (← closing? flags negated set) 0) cs
      | none => do
        let (negated, inner, cs) := opening flags cs
        let (inner, cs) ← body flags fuel inner cs
        let set ← closing? flags negated (inner.combined flags)
        body flags fuel (u.add set (inner.depth + 1)) cs
    | cs => do
      let (set, cs) ← member flags cs
      body flags fuel (u.add set 0) cs

/-- **A class in brackets**, behind its opening bracket. -/
def read (flags : Flags) : Reader CharClass := fun cs => do
  let (negated, u, behind) := opening flags cs
  let (u, behind) ← body flags (cs.length + 1) u behind
  let set ← closing? flags negated (u.combined flags)
  pure (⟨set, flags.unicode, u.depth + 1⟩, behind)

end RunFilter.Regex.Bracket
