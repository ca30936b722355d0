import RunFilter.Token.Stream

/-!
# Reading with one token in view

A lookahead is a place in a token stream with the token there in view. Reading on can fail in one
way only: by meeting the mistake at which the stream ends. The readers of this module are the ones
that the grammar is built from: a symbol, a name, a constant, and elements between commas.
-/

set_option autoImplicit false

namespace RunFilter

/-- The token in view, its place, and the tokens behind it. -/
structure Lookahead where
  token : Token
  offset : Nat
  rest : TokenStream
  deriving Repr

/-- A reader takes a part of a filter from the tokens in front of it. -/
abbrev Reader (α : Type) := Lookahead → Except SyntaxError (α × Lookahead)

/-- The first token of a stream, the end of the text if there is none. -/
def TokenStream.view : TokenStream → Except SyntaxError Lookahead
  | .finish offset => .ok ⟨.endOfText, offset, .finish offset⟩
  | .broken e => .error e
  | .cons token offset rest => .ok ⟨token, offset, rest⟩

namespace Lookahead

/-- The number of tokens ahead, the one in view included. -/
def size (la : Lookahead) : Nat := la.rest.size + 1

/-- The next token comes into view. -/
def advance (la : Lookahead) : Except SyntaxError Lookahead := la.rest.view

/-- Whether a symbol is in view. -/
def sees (la : Lookahead) (s : Symbol) : Bool := la.token = .symbol s

/-- A mistake at the token in view. -/
def fail {α : Type} (la : Lookahead) (fault : Fault) : Except SyntaxError α :=
  .error (fault.at la.offset)

/-- The token in view is not what the grammar asks for. -/
def unexpected {α : Type} (la : Lookahead) (what : Expectation) : Except SyntaxError α :=
  la.fail (.expected what la.token)

/-- Passes a symbol. -/
def expect (s : Symbol) (la : Lookahead) : Except SyntaxError Lookahead :=
  if la.sees s then la.advance else la.unexpected (.symbol s)

/-- Takes a name. -/
def name : Reader String := fun la =>
  match la.token with
  | .name s => do pure (s, ← la.advance)
  | _ => la.unexpected .name

/-- Takes a constant. -/
def constant : Reader Value := fun la =>
  match la.token with
  | .literal value => do pure (value, ← la.advance)
  | _ => la.unexpected .literal

/-- Takes a text; anything else is the given mistake at the given place. -/
def text (otherwise : Token → SyntaxError) : Reader String := fun la =>
  match la.token with
  | .literal (.text s) => do pure (s, ← la.advance)
  | found => .error (otherwise found)

/-- Elements with commas between them up to a closing symbol, at most `fuel` of them; one comma may
stand behind the last. -/
def elementsWithin {α : Type} (close : Symbol) (element : Reader α) : Nat → Reader (List α)
  | 0, la => la.fail .nestedTooDeeply
  | fuel + 1, la =>
    if la.sees close then do pure ([], ← la.advance)
    else do
      let (x, la) ← element la
      let la ← if la.sees close then pure la else la.expect .comma
      let (xs, la) ← elementsWithin close element fuel la
      pure (x :: xs, la)

/-- **Elements with commas between them** up to a closing symbol. Each takes a token, so there are
no more elements than tokens. -/
def elements {α : Type} (close : Symbol) (element : Reader α) : Reader (List α) :=
  fun la => elementsWithin close element la.size la

/-- Further operands, each behind the given word, at most `fuel` of them. -/
def furtherWithin {α : Type} (word : Symbol) (operand : Reader α) : Nat → Reader (List α)
  | 0, la => la.fail .nestedTooDeeply
  | fuel + 1, la =>
    if la.sees word then do
      let la ← la.advance
      let (x, la) ← operand la
      let (xs, la) ← furtherWithin word operand fuel la
      pure (x :: xs, la)
    else pure ([], la)

/-- **Further operands**, each behind the given word. -/
def further {α : Type} (word : Symbol) (operand : Reader α) : Reader (List α) :=
  fun la => furtherWithin word operand la.size la

end Lookahead

end RunFilter
