import RunFilter.Regex.Flags
import RunFilter.Regex.Property.Age
import RunFilter.Regex.Property.Boundary
import RunFilter.Regex.Property.General
import RunFilter.Text.Ascii

/-!
# Classes by property

A class may be named by a property that its characters have, by a general category, by a script, or
as a property and its value. Case, blanks, hyphens and underscores in a name mean nothing, and
neither does `is` in front of it.
-/

set_option autoImplicit false

namespace RunFilter.Regex.Property

/-- The plain form of a name: small letters and digits. -/
def plainName (name : List Char) : String :=
  let plain (cs : List Char) : List Char :=
    cs.filter fun c => c.toNat < 0x80 && c != ' ' && c != '_' && c != '-'
  match name.map Char.toLower with
  | 'i' :: 's' :: cs => String.ofList (if plain cs = ['c'] then ['i', 's', 'c'] else plain cs)
  | cs => String.ofList (plain cs)

/-- The set of a name in its plain form: a property wins over a category, and a category over a
script. -/
def ofWord? (name : String) : Option CharSet :=
  binary? name <|> general? name <|> (script? name).map (·.set)

/-- The set of a value of a property, both in plain form. -/
def ofValue? (property value : String) : Option CharSet :=
  match property with
  | "gc" | "generalcategory" => general? value
  | "sc" | "script" => (script? value).map (·.set)
  | "scx" | "scriptextensions" => (script? value).map (·.extendedSet)
  | "age" => age? value
  | "gcb" | "graphemeclusterbreak" => lookup graphemeBreaks value
  | "wb" | "wordbreak" => lookup wordBreaks value
  | "sb" | "sentencebreak" => lookup sentenceBreaks value
  | _ => none

/-- **The set of a property**, written as a name or as a property and its value, and whether `!=`
asks for the characters outside it. -/
def ofName? (name : List Char) : Option (CharSet × Bool) :=
  let word := name.takeWhile fun c => c != '=' && c != ':'
  match name.dropWhile fun c => c != '=' && c != ':' with
  | [] => (ofWord? (plainName name)).map (·, false)
  | sign :: value =>
    let outside := sign == '=' && word.getLast? == some '!'
    let property := if outside then word.dropLast else word
    (ofValue? (plainName property) (plainName value)).map (·, outside)

/-- **A class by its property**, behind its letter: in braces, or one letter. It needs the
characters of all scripts. Characters that count as the same are added before the class is turned
round. -/
def read (flags : Flags) (negated : Bool) : Reader CharSet := fun cs => do
  let (name, cs) ← match flags.skip cs with
    | [] => none
    | '\x7b' :: cs => flags.braced cs
    | c :: cs => some ([c], cs)
  let (set, outside) ← ofName? name
  let set := flags.fold set
  if flags.unicode then pure (if negated != outside then .complement set else set, cs) else none

end RunFilter.Regex.Property
