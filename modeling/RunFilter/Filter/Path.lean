import RunFilter.Filter
import RunFilter.Filter.Lookahead

/-!
# Reading attributes and calls

An attribute is `entity.field`, then at most one subscript, then at most one member. In place of
the member, or behind it, a method may be called on the attribute. The entity `re` is none: its two
fields are the pattern functions.
-/

set_option autoImplicit false

namespace RunFilter.Filter

open Lookahead

/-! ## Subscripts -/

/-- One key of a context and its text. -/
def contextEntry : Reader (String × String) := fun la => do
  let (key, la) ← text (fun found => (Fault.contextKeyNotText found).at la.offset) la
  let la ← la.expect .colon
  let (value, la) ← text (fun found => (Fault.contextValueNotText found).at la.offset) la
  pure ((key, value), la)

/-- A context, with its opening brace in view; of two texts under one key the later counts. -/
def context : Reader Dictionary := fun la => do
  let la ← la.advance
  let (entries, la) ← elements .rightBrace contextEntry la
  pure (Dictionary.ofList entries, la)

/-- What follows the comma behind the name of a subscript that opens at `start`: a context, which
one more comma may follow, or nothing. -/
def contextPart (start : Nat) : Reader (Option Dictionary) := fun la =>
  if la.sees .leftBrace then do
    let (found, la) ← context la
    let la ← if la.sees .comma then la.advance else pure la
    pure (some found, la)
  else if la.sees .rightBracket then pure (none, la)
  else .error ((Fault.contextExpected la.token).at start)

/-- **A subscript**, with its opening bracket in view. -/
def subscript : Reader Subscript := fun la => do
  let start := la.offset
  let la ← la.advance
  let (name, la) ← text (fun found =>
    (if found = .symbol .leftBrace then Fault.contextBeforeName
      else .subscriptWithoutName found).at start) la
  let (context, la) ← if la.sees .comma then do contextPart start (← la.advance) else pure (none, la)
  if la.sees .rightBracket then pure ({ name, context }, ← la.advance)
  else .error (Fault.subscriptNotClosed.at start)

/-- A subscript, if one is in view. -/
def subscript? : Reader (Option Subscript) := fun la =>
  if la.sees .leftBracket then do
    let (found, la) ← subscript la
    pure (some found, la)
  else pure (none, la)

/-! ## Attributes and calls -/

/-- The methods of attributes. -/
def method? : String → Option Function
  | "startswith" => some .startsWith
  | "endswith" => some .endsWith
  | _ => none

/-- The pattern functions, as fields of `re`. -/
def patternFunction? : String → Option Function
  | "match" => some .patternAtStart
  | "search" => some .patternAnywhere
  | _ => none

/-- Nothing that would continue an attribute or a call may follow it. -/
def complete (filter : Filter) : Reader Filter := fun la =>
  match la.token with
  | .symbol .leftBracket => la.fail .secondSubscript
  | .symbol .leftParen => la.fail .strayCall
  | .symbol .dot => la.fail (.strayAccess la.token)
  | _ => pure (filter, la)

section

variable (expression : Reader Filter)

/-- The arguments of a call, with its parenthesis in view. -/
def arguments : Reader (List Filter) := fun la => do
  elements .rightParen expression (← la.expect .leftParen)

/-- What follows a dot behind an attribute: a whole method call, or the name of a member. -/
def access (path : AttributePath) : Reader (Filter ⊕ String) := fun la => do
  let la ← la.advance
  let (name, la) ← name la
  if la.sees .leftParen then
    match method? name with
    | none => .error ((Fault.unsupportedMethod path.dotted name).at path.offset)
    | some function =>
      let (args, la) ← arguments expression la
      let (whole, la) ← complete (.call function (.attribute path :: args) path.offset) la
      pure (.inl whole, la)
  else pure (.inr name, la)

/-- An attribute with its member, or a method call on it. -/
def withMember (path : AttributePath) : Reader Filter := fun la =>
  if la.sees .dot then do
    match ← access expression path la with
    | (.inl whole, la) => pure (whole, la)
    | (.inr name, _) => .error ((Fault.memberOfMember path.dotted name).at path.offset)
  else complete (.attribute path) la

/-- What follows an attribute without a member. -/
def withoutMember (path : AttributePath) : Reader Filter := fun la =>
  if la.sees .dot then do
    match ← access expression path la with
    | (.inl whole, la) => pure (whole, la)
    | (.inr name, la) => withMember expression { path with member := some name } la
  else complete (.attribute path) la

/-- A call of the field `name` of `re`, with what follows that name in view. -/
def patternCall (name : String) (offset : Nat) : Reader Filter := fun la =>
  match patternFunction? name with
  | none => .error ((Fault.unsupportedPatternFunction name).at offset)
  | some function => do
    let (args, la) ← arguments expression la
    complete (.call function args offset) la

/-- An attribute or a method call, with what follows the first two names in view. -/
def attributeOrMethod (entity field : String) (offset : Nat) : Reader Filter := fun la => do
  let (subscript, la) ← subscript? la
  withoutMember expression { entity, field, subscript, member := none, offset } la

/-- **An attribute, a method call or a call of a pattern function**, with its first name in
view. -/
def attributeOrCall : Reader Filter := fun la => do
  let offset := la.offset
  let (entity, la) ← name la
  if la.sees .leftParen then .error ((Fault.unsupportedFunction entity).at offset)
  else if !la.sees .dot then la.unexpected (.dotAfter entity)
  else
    let (field, la) ← name (← la.advance)
    if entity = "re" then patternCall expression field offset la
    else attributeOrMethod expression entity field offset la

end

end RunFilter.Filter
