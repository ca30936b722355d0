import RunFilter.Regex.Encoding
import RunFilter.Regex.Reduced

/-!
# The size of expressions

An expression is bounded by the size of the program that it stands for. Its states read a text byte
by byte, and there are two programs: one reads forwards, the other one backwards. A state takes 32
bytes, each way out of a choice between ways 4 more, and each range of a choice between bytes 8
more. A part that is repeated a number of times is there as many times.
-/

set_option autoImplicit false

namespace RunFilter.Regex.Program

/-! ## Parts -/

/-- A part of an expression: how large it is and what it takes. -/
structure Part where
  /-- The size of the program that reads forwards. -/
  forward : Nat
  /-- The size of the program that reads backwards. -/
  backward : Nat
  /-- The number of bytes of the shortest text that can match, if any can. -/
  shortest : Option Nat
  /-- Only the empty text can match. -/
  takesNothing : Bool := false
  /-- Nothing matches but at the beginning of a text. -/
  startsText : Bool := false
  /-- Nothing matches but at the end of a text. -/
  endsText : Bool := false
  deriving Repr

/-- The size of a state. -/
def stateSize : Nat := 32

/-- The size of a way out of a choice between ways. -/
def waySize : Nat := 4

/-- The size of a range of a choice between bytes. -/
def rangeSize : Nat := 8

/-- The empty part. -/
def nothing : Part := ⟨stateSize, stateSize, some 0, true, false, false⟩

/-- A condition on a place. -/
def look (a : Assertion) : Part :=
  ⟨stateSize, stateSize, some 0, true, a == .startOfText, a == .endOfText⟩

/-- The bytes of a text. -/
def bytes (characters : List Nat) : List Nat :=
  characters.flatMap fun n => Encoding.bytes (Encoding.length n) n

/-- A text: a state for each byte. -/
def text (characters : List Nat) : Part :=
  let count := (bytes characters).length
  { forward := stateSize * count, backward := stateSize * count, shortest := some count }

/-- **A set of characters.** A set of ASCII is a choice between bytes; any other one is read byte by
byte, and backwards by one way for each row. -/
def set (ranges : Text.Ranges) : Part :=
  let shortest := ranges.head?.map fun (low, _) => Encoding.length low
  if ranges.all fun (_, high) => high < 0x80 then
    let size := 2 * stateSize + rangeSize * ranges.length
    { forward := size, backward := size, shortest }
  else
    let rows := Encoding.rows ranges
    let forks := Encoding.forks rows
    { forward := stateSize * (forks.length + 1) +
        rangeSize * forks.foldl (fun count fork => count + fork.length) 0
      backward := stateSize * (Encoding.steps [] rows + 2) + waySize * rows.length
      shortest }

/-- A part that is kept apart in what is found: two more states where reading goes forwards. -/
def kept (p : Part) : Part := { p with forward := p.forward + 2 * stateSize }

/-- **A part behind another.** -/
def behind (p q : Part) : Part where
  forward := p.forward + q.forward
  backward := p.backward + q.backward
  shortest := do pure ((← p.shortest) + (← q.shortest))
  takesNothing := p.takesNothing && q.takesNothing
  startsText := p.startsText || (p.takesNothing && q.startsText)
  endsText := q.endsText || (q.takesNothing && p.endsText)

/-! ## Repetitions -/

/-- The size of a part repeated, from its own. -/
def repeatedSize (takesSome : Bool) (size least : Nat) : Option Nat → Nat
  | none =>
    if 0 < least then least * size + stateSize + 2 * waySize
    else if takesSome then size + stateSize + 2 * waySize
    else size + 3 * stateSize + 4 * waySize
  | some most =>
    if least == 0 && most == 1 then size + 2 * stateSize + 2 * waySize
    else if least == most then least * size
    else
      (if least == 0 then stateSize else least * size) + stateSize +
        (most - least) * (size + stateSize + 2 * waySize)

/-- **A part repeated**, at least and at most so many times. -/
def repeated (p : Part) (least : Nat) (most : Option Nat) : Part :=
  let takesSome := p.shortest.any (0 < ·)
  { forward := repeatedSize takesSome p.forward least most
    backward := repeatedSize takesSome p.backward least most
    shortest := p.shortest.map (least * ·)
    takesNothing := p.takesNothing
    startsText := 0 < least && p.startsText
    endsText := 0 < least && p.endsText }

/-! ## Alternatives -/

/-- Texts cut where one ends. The ones behind share no beginning with the ones in front, since those
are preferred to it. A text that ends where one has ended, with none between them, adds nothing. -/
def sections : List (List Nat) → List (List (List Nat))
  | [] => [[]]
  | [] :: words => [] :: sections words
  | word :: words =>
    match sections words with
    | first :: more => (word :: first) :: more
    | [] => [[word]]

/-- The size of a tree of texts of less than `fuel` bytes, without the state at its end. Texts of a
section with the same beginning share it. A section with several ways on is a choice between bytes;
the sections, and the ends between them, are a choice between ways. -/
def treeSize : Nat → List (List Nat) → Nat
  | 0, _ => 0
  | fuel + 1, words =>
    let words := match words with
      | [] :: rest => [] :: rest.dropWhile List.isEmpty
      | words => words
    if words.all List.isEmpty then 0
    else
      let parts := sections words
      parts.foldl (fun size part =>
        let firsts := (part.filterMap List.head?).eraseDups
        if firsts.isEmpty then size
        else
          let ranges := if firsts.length == 1 then 0 else firsts.length
          firsts.foldl (fun size b => size + treeSize fuel (part.filterMap (tail? b)))
            (size + stateSize + waySize + rangeSize * ranges))
        (stateSize + waySize * (parts.length - 1))
where
  /-- The rest of a text that begins with a byte. -/
  tail? (b : Nat) : List Nat → Option (List Nat)
    | [] => none
    | a :: word => if a = b then some word else none

/-- The size of a choice between parts of the given sizes. -/
def choiceSize (sizes : List Nat) : Nat :=
  sizes.foldl (· + ·) (2 * stateSize + waySize * sizes.length)

/-- The characters of a part that is a text. -/
def characters? : Reduced → Option (List Nat)
  | .text characters => some characters
  | _ => none

/-- **Alternatives as one part**, which make a tree if they are given as texts, and a choice
otherwise. -/
def choice (texts : Option (List (List Nat))) : List Part → Part
  | [p] => p
  | ps =>
    let shortests := ps.mapM (·.shortest)
    let part (forward backward : Nat) : Part :=
      { forward, backward
        shortest := shortests.bind (·.min?)
        takesNothing := ps.all (·.takesNothing)
        startsText := ps.all (·.startsText)
        endsText := ps.all (·.endsText) }
    match texts with
    | some texts =>
      let words := texts.map bytes
      let fuel := words.foldl (fun longest w => max longest w.length) 0 + 1
      part (stateSize + treeSize fuel words) (stateSize + treeSize fuel (words.map List.reverse))
    | none => part (choiceSize (ps.map (·.forward))) (choiceSize (ps.map (·.backward)))

/-- The parts of the alternatives of a reduced pattern. -/
def parts : Reduced → List Part
  | .nothing => [nothing]
  | .text characters => [text characters]
  | .set _ ranges => [set ranges]
  | .look a => [look a]
  | .kept p => [kept (whole p (parts p))]
  | .times p least most _ => [repeated (whole p (parts p)) least most]
  | .seq p q => [behind (whole p (parts p)) (whole q (parts q))]
  | .alt p q => whole p (parts p) :: parts q
where
  /-- A reduced pattern as one part, from the parts of its alternatives. -/
  whole (p : Reduced) (ps : List Part) : Part := choice (p.branches.mapM characters?) ps

/-! ## The limit -/

/-- The size of what skips to the place where a match begins: one state if that is known. -/
def skipSize (isKnown : Bool) : Nat :=
  if isKnown then stateSize else 3 * stateSize + 2 * waySize + rangeSize

/-- **The larger program** of a reduced pattern, with what skips, the edges of what is found and the
last state. -/
def size (p : Reduced) : Nat :=
  let part := parts.whole p (parts p)
  max ((kept part).forward + skipSize part.startsText + stateSize)
    (part.backward + skipSize part.endsText + stateSize)

/-- The size of the largest program: ten megabytes. -/
def sizeLimit : Nat := 10 * 1024 * 1024

/-- From so many texts on, alternatives are searched for without a program. -/
def listLimit : Nat := 3000

/-- Whether a reduced pattern is a long list of texts. -/
def isList (p : Reduced) : Bool :=
  listLimit ≤ p.branches.length && p.branches.all fun q => (characters? q).isSome

end RunFilter.Regex.Program

namespace RunFilter.Regex

/-- Whether a pattern keeps to the limits. -/
def Pattern.isBounded (p : Pattern) : Bool :=
  let reduced := Reduced.ofPattern p
  p.depth ≤ Pattern.depthLimit &&
    (Program.isList reduced || Program.size reduced ≤ Program.sizeLimit)

end RunFilter.Regex
