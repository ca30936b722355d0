/-!
# Letters and digits of ASCII

Names and numbers of the filter language are made of ASCII characters only; so are the names of
dialects, tables and documentation categories. `Char.toLower` changes ASCII letters only.
-/

set_option autoImplicit false

namespace RunFilter.Text

/-- A decimal digit of ASCII. -/
def isDigit (c : Char) : Bool := '0' ≤ c && c ≤ '9'

/-- A letter of ASCII. -/
def isLetter (c : Char) : Bool := ('a' ≤ c && c ≤ 'z') || ('A' ≤ c && c ≤ 'Z')

/-- A character that can begin a name. -/
def isNameStart (c : Char) : Bool := isLetter c || c == '_'

/-- A character that can continue a name. -/
def isNamePart (c : Char) : Bool := isNameStart c || isDigit c

/-- The names that may be spliced into a statement: a letter or an underscore, then letters,
digits and underscores. -/
def isIdentifier (s : String) : Bool :=
  match s.toList with
  | [] => false
  | c :: cs => isNameStart c && cs.all isNamePart

/-- The value of a decimal digit. -/
def digitValue (c : Char) : Nat := c.toNat - '0'.toNat

/-- The number that a run of decimal digits stands for. -/
def digitsValue (cs : List Char) : Nat := cs.foldl (fun n c => n * 10 + digitValue c) 0

/-- The value of a hexadecimal digit, whatever the case of its letter. -/
def hexValue? (c : Char) : Option Nat :=
  if isDigit c then some (digitValue c)
  else if 'a' ≤ c && c ≤ 'f' then some (c.toNat - 'a'.toNat + 10)
  else if 'A' ≤ c && c ≤ 'F' then some (c.toNat - 'A'.toNat + 10)
  else none

/-- The number of digits in a base of at most sixteen, if all are digits of it. -/
def number? (base : Nat) (cs : List Char) : Option Nat :=
  cs.foldlM (fun n c => do
    let d ← hexValue? c
    if d < base then some (n * base + d) else none) 0

/-- The character of a code point, if it has one. -/
def character? (n : Nat) : Option Char := if n.isValidChar then some (Char.ofNat n) else none

/-- The text with the letters of ASCII in lower case and all else as it is. -/
def lower (s : String) : String := String.ofList (s.toList.map Char.toLower)

/-- The text with the letters of ASCII in upper case and all else as it is. -/
def upper (s : String) : String := String.ofList (s.toList.map Char.toUpper)

end RunFilter.Text
