import RunFilter.Toml.Scalar
import RunFilter.Toml.Table

/-!
# TOML documents

A document is a sequence of lines: blank, a comment, a header, or a key with its value. Arrays may
run over several lines, other values end on theirs. `Document.read` gives the table of a document,
or the number of the line where it goes wrong.
-/

set_option autoImplicit false

namespace RunFilter.Toml

/-! ## Keys -/

/-- A character of a key without quotes. -/
def isKeyPart (c : Char) : Bool := Text.isLetter c || Text.isDigit c || c == '_' || c == '-'

/-- One part of a key: bare, or in quotes on one line. -/
def keyPart : Reader String
  | [] => none
  | c :: cs =>
    if c == '"' || c == '\x27' then lineText (c :: cs)
    else
      let word := (c :: cs).takeWhile isKeyPart
      if word.isEmpty then none
      else some (String.ofList word, (c :: cs).dropWhile isKeyPart)

/-- A key: parts with dots between them, at most `fuel` of them, and blanks around each. -/
def keyWithin : Nat → Reader (List String)
  | 0, _ => none
  | fuel + 1, cs => do
    let (part, cs) ← keyPart (skipGaps cs)
    match skipGaps cs with
    | '.' :: cs => do
      let (parts, cs) ← keyWithin fuel cs
      some (part :: parts, cs)
    | cs => some ([part], cs)

/-- **A key**: the way to the table, and the last part. -/
def key : Reader (List String × String) := fun cs => do
  let (parts, cs) ← keyWithin (cs.length + 1) cs
  let last ← parts.getLast?
  some ((parts.dropLast, last), cs)

/-! ## Values -/

/-- The text behind a comment that stands in front. -/
def skipComment : List Char → List Char
  | '#' :: cs => cs.dropWhile isPlain
  | cs => cs

/-- The text behind blanks, line breaks and comments; `fuel` bounds the number of lines. -/
def skipLines : Nat → List Char → Option (List Char)
  | 0, cs => some cs
  | fuel + 1, cs =>
    match skipGaps cs with
    | '#' :: cs => do skipLines fuel (← newline? (cs.dropWhile isPlain))
    | cs =>
      match newline? cs with
      | some cs => skipLines fuel cs
      | none => some cs

/-- The items of an array up to its closing bracket, at most `fuel` of them. A comma may follow the
last item. -/
def items (value : Reader Value) : Nat → Reader (List Value)
  | 0, _ => none
  | fuel + 1, cs => do
    let cs ← skipLines cs.length cs
    match cs with
    | ']' :: cs => some ([], cs)
    | cs =>
      let (v, cs) ← value cs
      let cs ← skipLines cs.length cs
      match cs with
      | ']' :: cs => some ([v], cs)
      | ',' :: cs => do
        let (vs, cs) ← items value fuel cs
        some (v :: vs, cs)
      | _ => none

/-- A key, an equals sign and a value. -/
def pair (value : Reader Value) : Reader ((List String × String) × Value) := fun cs => do
  let (k, cs) ← key cs
  let cs ← after '=' cs
  let (v, cs) ← value (skipGaps cs)
  some ((k, v), cs)

/-- The pairs of a table on one line up to its closing brace, at most `fuel` of them. No comma
follows the last pair. -/
def pairs (value : Reader Value) : Nat → Table → Reader Table
  | 0, _, _ => none
  | fuel + 1, t, cs => do
    let (((path, k), v), cs) ← pair value cs
    let t ← t.addValue path k v
    match skipGaps cs with
    | '\x7d' :: cs => some (t, cs)
    | ',' :: cs => pairs value fuel t cs
    | _ => none

/-- How deep arrays and tables on one line may nest. -/
def maxNesting : Nat := 79

/-- **A value**, with arrays and tables nested at most `room` deep. -/
def value : Nat → Reader Value
  | room, '[' :: cs =>
    match room with
    | 0 => none
    | room + 1 => (items (value room) (cs.length + 1) cs).map fun (vs, cs) => (.array vs, cs)
  | room, '\x7b' :: cs =>
    match room with
    | 0 => none
    | room + 1 =>
      match skipGaps cs with
      | '\x7d' :: cs => some (.table [], cs)
      | cs => (pairs (value room) (cs.length + 1) .root cs).map fun (t, cs) =>
        (.table (closeEntries t.entries), cs)
  | _, cs => scalar cs

/-! ## Lines -/

/-- The text of the next line, if this one holds nothing more than a comment. -/
def endLine (cs : List Char) : Option (List Char) :=
  match skipComment (skipGaps cs) with
  | [] => some []
  | cs => newline? cs

/-- What has been read of a document: its table, and the way to the table that is open. -/
structure Progress where
  table : Table
  here : List String

/-- A header behind its first bracket. -/
def header (p : Progress) (cs : List Char) : Option (Progress × List Char) := do
  match cs with
  | '[' :: cs =>
    let ((path, k), cs) ← key cs
    let cs ← after ']' (← after ']' cs)
    some (⟨← p.table.openItem path k, path ++ [k]⟩, cs)
  | cs =>
    let ((path, k), cs) ← key cs
    let cs ← after ']' cs
    some (⟨← p.table.openTable path k, path ++ [k]⟩, cs)

/-- **One line** that is not blank: a comment, a header, or a key with its value, and the text of
the line behind it. -/
def line (p : Progress) (cs : List Char) : Option (Progress × List Char) := do
  match cs with
  | '#' :: cs => some (p, ← endLine ('#' :: cs))
  | '[' :: cs =>
    let (p, cs) ← header p cs
    some (p, ← endLine cs)
  | cs =>
    let (((path, k), v), cs) ← pair (value maxNesting) cs
    let table ← p.table.change false (·.addValue path k v) p.here
    some ({ p with table }, ← endLine cs)

/-- The lines of a text, at most `fuel` of them; on failure, what is left of the text from the
wrong line on. -/
def linesWithin : Nat → Progress → List Char → Except (List Char) Table
  | 0, p, _ => .ok p.table
  | fuel + 1, p, cs =>
    match skipGaps cs with
    | [] => .ok p.table
    | cs =>
      match newline? cs with
      | some cs => linesWithin fuel p cs
      | none =>
        match line p cs with
        | some (p, cs) => linesWithin fuel p cs
        | none => .error cs

namespace Document

/-- The number of the line that `rest` begins in, for the rest of a text. -/
def lineNumber (whole rest : List Char) : Nat :=
  whole.count '\n' - rest.count '\n' + 1

/-- **The entries of a document**, or the number of the first wrong line. A byte order mark in front
is passed over. -/
def read (s : String) : Except Nat (List (String × Value)) :=
  let cs := match s.toList with
    | '\ufeff' :: cs => cs
    | cs => cs
  match linesWithin (cs.length + 1) ⟨.root, []⟩ cs with
  | .ok t => .ok (closeEntries t.entries)
  | .error rest => .error (lineNumber cs rest)

end Document

end RunFilter.Toml
