import RunFilter.Token.Scanner

/-!
# Token streams

The tokens of a text with their places, up to the end of the text or to the first mistake in it.
The mistake stands in the stream where it was found: who reads the stream meets it only after the
tokens before it.
-/

set_option autoImplicit false

namespace RunFilter

/-- The tokens that follow a place. -/
inductive TokenStream where
  /-- No more tokens; the text ends here. -/
  | finish (offset : Nat)
  /-- No more tokens; here is what is wrong. -/
  | broken (error : SyntaxError)
  | cons (token : Token) (offset : Nat) (rest : TokenStream)
  deriving DecidableEq, Repr

namespace TokenStream

/-- The stream that follows a place, at most `fuel` tokens long. -/
def scanFrom (fuel : Nat) (c : Cursor) : TokenStream :=
  let scan := c.next
  match scan.outcome, fuel with
  | .error e, _ => .broken e
  | .ok .endOfText, _ => .finish scan.start
  | .ok _, 0 => .finish scan.start
  | .ok token, fuel + 1 => .cons token scan.start (scanFrom fuel scan.after)

/-- **The stream of a text.** Each token takes a character, so there are no more tokens than
characters. -/
def ofString (s : String) : TokenStream := scanFrom s.toList.length (Cursor.ofString s)

/-- The number of tokens. -/
def size : TokenStream → Nat
  | finish _ | broken _ => 0
  | cons _ _ rest => rest.size + 1

/-- The tokens in order, if no mistake follows them. -/
def toList : TokenStream → Except SyntaxError (List Token)
  | finish _ => .ok []
  | broken e => .error e
  | cons token _ rest => (token :: ·) <$> rest.toList

end TokenStream

/-- **The tokens of a text**, the end of the text included, or the first mistake. -/
def tokenize (s : String) : Except SyntaxError (List Token) :=
  (· ++ [.endOfText]) <$> (TokenStream.ofString s).toList

end RunFilter
