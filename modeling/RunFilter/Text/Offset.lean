/-!
# Places in a text

A place is the number of bytes of UTF-8 before it. `splitAt?` cuts a text at a place and refuses
places inside a character or behind the end, so what it returns glues back together.
-/

set_option autoImplicit false

namespace RunFilter.Text

/-- The number of bytes that the characters take in UTF-8. -/
def byteLength : List Char → Nat
  | [] => 0
  | c :: cs => c.utf8Size + byteLength cs

@[simp] theorem byteLength_nil : byteLength [] = 0 := rfl

@[simp] theorem byteLength_cons (c : Char) (cs : List Char) :
    byteLength (c :: cs) = c.utf8Size + byteLength cs := rfl

@[simp] theorem byteLength_append (xs ys : List Char) :
    byteLength (xs ++ ys) = byteLength xs + byteLength ys := by
  induction xs with
  | nil => simp
  | cons c cs ih => simp [ih, Nat.add_assoc]

/-- The characters before and after a place, if the place lies between two characters or at an
end of the text. -/
def splitAt? (place : Nat) : List Char → Option (List Char × List Char)
  | [] => if place = 0 then some ([], []) else none
  | c :: cs =>
    if place = 0 then some ([], c :: cs)
    else if place < c.utf8Size then none
    else (splitAt? (place - c.utf8Size) cs).map fun (before, after) => (c :: before, after)

/-- The part of `s` that starts at a place, or the empty text if the place is none of `s`. -/
def fragmentAt (s : String) (place : Nat) : String :=
  match splitAt? place s.toList with
  | some (_, after) => String.ofList after
  | none => ""

/-- Whether `part` stands somewhere in `whole`. The empty text stands everywhere. -/
def contains (part : List Char) : List Char → Bool
  | [] => part.isEmpty
  | c :: cs => part.isPrefixOf (c :: cs) || contains part cs

end RunFilter.Text
