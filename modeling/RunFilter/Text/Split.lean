/-!
# Parts between separators

Splitting keeps empty parts: a text has one part more than it has separators.
-/

set_option autoImplicit false

namespace RunFilter.Text

/-- The parts of a text between the occurrences of a character. -/
def split (separator : Char) : List Char → List (List Char)
  | [] => [[]]
  | c :: cs =>
    if c = separator then [] :: split separator cs
    else match split separator cs with
      | [] => [[c]]
      | part :: parts => (c :: part) :: parts

end RunFilter.Text
