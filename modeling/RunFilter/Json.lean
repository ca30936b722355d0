import RunFilter.Dictionary
import RunFilter.Value

/-!
# JSON

The documents that a compiled query is printed as, in the compact text and in the text indented by
two blanks. Fields stand in ascending order of their names, and the text of a number is that of
`Layout.json`.
-/

set_option autoImplicit false

namespace RunFilter

/-- A JSON document. -/
inductive Json where
  | null
  | bool (b : Bool)
  | int (n : Int)
  | float (x : Binary64)
  | text (s : String)
  | array (items : List Json)
  | object (fields : List (String × Json))
  deriving Repr, Inhabited, BEq

namespace Json

/-- An object with its fields in ascending order of their names. -/
def record (fields : List (String × Json)) : Json :=
  .object (fields.mergeSort fun a b => decide (a.1 ≤ b.1))

/-- The object of a dictionary. -/
def ofDictionary (d : Dictionary) : Json :=
  .object (d.entries.map fun (key, value) => (key, .text value))

/-- A bound value. -/
def ofValue : Value → Json
  | .null => .null
  | .bool b => .bool b
  | .int n => .int n
  | .float x => .float x
  | .text s => .text s

/-! ## Text -/

/-- One character inside quotes: two-character escapes for five controls, quotes and backslashes,
and four hexadecimal digits for the other controls below the blank. -/
def escapeChar (c : Char) : List Char :=
  match c with
  | '\x08' => ['\\', 'b']
  | '\x0c' => ['\\', 'f']
  | '\n' => ['\\', 'n']
  | '\r' => ['\\', 'r']
  | '\t' => ['\\', 't']
  | '"' => ['\\', '"']
  | '\\' => ['\\', '\\']
  | c =>
    if c.toNat < 0x20 then
      let digits := Nat.toDigits 16 c.toNat
      ['\\', 'u'] ++ List.replicate (4 - digits.length) '0' ++ digits
    else [c]

/-- A text in quotes. -/
def quote (s : String) : String :=
  String.ofList ('"' :: s.toList.flatMap escapeChar ++ ['"'])

/-- Parts with commas between them, in brackets. -/
def bracketed (opening closing : String) (parts : List String) : String :=
  opening ++ String.intercalate "," parts ++ closing

mutual
/-- **The compact text**: no blanks outside of texts. -/
def compact : Json → String
  | .null => "null"
  | .bool true => "true"
  | .bool false => "false"
  | .int n => toString n
  | .float x => Layout.json.number x
  | .text s => quote s
  | .array items => bracketed "[" "]" (compactItems items)
  | .object fields => bracketed "\x7b" "\x7d" (compactFields fields)
/-- The compact texts of items. -/
def compactItems : List Json → List String
  | [] => []
  | j :: js => j.compact :: compactItems js
/-- The compact texts of fields. -/
def compactFields : List (String × Json) → List String
  | [] => []
  | (name, j) :: rest => (quote name ++ ":" ++ j.compact) :: compactFields rest
end

/-- Parts on lines of their own at a depth, in brackets; brackets alone if there are none. -/
def block (depth : Nat) (opening closing : String) (parts : List String) : String :=
  let line (depth : Nat) := "\n" ++ String.ofList (List.replicate (2 * depth) ' ')
  if parts.isEmpty then opening ++ closing
  else
    opening ++ line (depth + 1) ++ String.intercalate ("," ++ line (depth + 1)) parts ++
      line depth ++ closing

mutual
/-- The indented text at a depth. -/
def prettyAt (depth : Nat) : Json → String
  | .array items => block depth "[" "]" (prettyItems (depth + 1) items)
  | .object fields => block depth "\x7b" "\x7d" (prettyFields (depth + 1) fields)
  | .null => "null"
  | .bool true => "true"
  | .bool false => "false"
  | .int n => toString n
  | .float x => Layout.json.number x
  | .text s => quote s
/-- The indented texts of items. -/
def prettyItems (depth : Nat) : List Json → List String
  | [] => []
  | j :: js => j.prettyAt depth :: prettyItems depth js
/-- The indented texts of fields. -/
def prettyFields (depth : Nat) : List (String × Json) → List String
  | [] => []
  | (name, j) :: rest => (quote name ++ ": " ++ j.prettyAt depth) :: prettyFields depth rest
end

/-- **The indented text**: two blanks for each level. -/
def pretty (j : Json) : String := j.prettyAt 0

end Json

end RunFilter
