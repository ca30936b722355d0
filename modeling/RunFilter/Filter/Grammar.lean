import RunFilter.Filter.Path

/-!
# Reading filters

The levels of the grammar, loosest first: `or`, `and`, `not`, chains of comparisons, operands.
A level with one operand adds no node, a level with several is one node, and a chain `a < b < c`
means `a < b and b < c`. Groups and `not` nest at most `maxNesting` deep; the levels left are the
`room` of a reader.
-/

set_option autoImplicit false

namespace RunFilter.Filter

open Lookahead

/-- How deep groups and `not` may nest. -/
def maxNesting : Nat := 100

/-- **A comparison operator**, of one token or two, if one is in view. -/
def operator : Reader (Option Operator) := fun la =>
  let one (op : Operator) : Except SyntaxError (Option Operator × Lookahead) := do
    pure (some op, ← la.advance)
  match la.token with
  | .symbol .equal => one .equal
  | .symbol .notEqual => one .notEqual
  | .symbol .less => one .less
  | .symbol .greater => one .greater
  | .symbol .lessEqual => one .lessEqual
  | .symbol .greaterEqual => one .greaterEqual
  | .symbol .inWord => one .among
  | .symbol .isWord => do
    let la ← la.advance
    if la.sees .notWord then pure (some .notEqual, ← la.advance) else pure (some .equal, la)
  | .symbol .notWord => do
    let la ← la.advance
    if la.sees .inWord then pure (some .notAmong, ← la.advance) else la.unexpected .inAfterNot
  | _ => pure (none, la)

section

variable (expression : Nat → Reader Filter)

/-- **An operand**: a constant, a list, an attribute, a call or a group. -/
def operand (room : Nat) : Reader Filter := fun la =>
  match la.token with
  | .literal _ => do
    let (value, la) ← constant la
    pure (.literal value, la)
  | .symbol .leftBracket => do
    let (values, la) ← elements .rightBracket constant (← la.advance)
    pure (.list values, la)
  | .symbol .leftParen =>
    match room with
    | 0 => la.fail .nestedTooDeeply
    | room + 1 => do
      let (inner, la) ← expression room (← la.advance)
      pure (inner, ← la.expect .rightParen)
  | .name _ => attributeOrCall (expression room) la
  | .symbol .leftBrace => la.fail .misplacedContext
  | _ => la.unexpected .operand

/-- The comparisons of a chain behind its operand `left` at `offset`, at most `fuel` of them. -/
def chainWithin (room : Nat) : Nat → Filter → Nat → Reader (List Filter)
  | 0, _, _, la => la.fail .nestedTooDeeply
  | fuel + 1, left, offset, la => do
    match ← operator la with
    | (none, la) => pure ([], la)
    | (some op, la) =>
      let place := la.offset
      let (right, la) ← operand expression room la
      let (more, la) ← chainWithin room fuel right place la
      pure (.comparison left op right offset :: more, la)

/-- The filter of a chain that begins with `first`: the operand alone, one comparison, or the
conjunction of several. -/
def ofChain (first : Filter) : List Filter → Filter
  | [] => first
  | [only] => only
  | several => .boolean .and several

/-- **An operand or a chain of comparisons.** -/
def comparisons (room : Nat) : Reader Filter := fun la => do
  let (first, after) ← operand expression room la
  let (chain, after) ← chainWithin expression room after.size first la.offset after
  pure (ofChain first chain, after)

/-- **Any number of `not` before a comparison.** -/
def negation (room : Nat) : Reader Filter := fun la =>
  if la.sees .notWord then
    match room with
    | 0 => la.fail .nestedTooDeeply
    | room + 1 => do
      let (inner, la) ← negation room (← la.advance)
      pure (.boolean .not [inner], la)
  else comparisons expression room la

/-- **Operands with a word between them**, as one node if there are several. -/
def joined (word : Symbol) (op : Connective) (part : Reader Filter) : Reader Filter := fun la => do
  let (first, la) ← part la
  let (more, la) ← further word part la
  pure (if more.isEmpty then first else .boolean op (first :: more), la)

end

/-- A filter with groups and arguments nested less than `fuel` deep. -/
def expressionWithin : Nat → Nat → Reader Filter
  | 0, _, la => la.fail .nestedTooDeeply
  | fuel + 1, room, la =>
    joined .orWord .or (joined .andWord .and (negation (expressionWithin fuel) room)) la

/-- The filter of a token stream, if it has tokens. Nesting takes tokens, so their number is fuel
enough. -/
def ofTokens? (tokens : TokenStream) : Except SyntaxError (Option Filter) := do
  let la ← tokens.view
  if la.token = .endOfText then pure none
  else
    let (filter, la) ← expressionWithin la.size maxNesting la
    if la.token = .endOfText then pure (some filter) else la.unexpected .endOfFilter

/-- **The filter of a text**; a text without tokens is no filter and lets everything pass. -/
def parse (s : String) : Except SyntaxError (Option Filter) :=
  (ofTokens? (TokenStream.ofString s)).mapError (·.inStatement s)

end RunFilter.Filter
