import Mathlib.Data.List.TakeWhile
import RunFilter.Dialect

/-!
# Array literals

Postgres takes the path to a text in a document as the literal of an array of texts.
`ArrayLiteral.read` is the rule by which such literals are read: elements stand between braces with
commas between them. An element in quotes ends at the next quote that no backslash protects, and a
backslash stands for the character behind it. An element without quotes loses the spaces around it,
stands for NULL if it spells `null` in any case, and is refused if nothing is left of it or if it
contains a brace, a quote or a backslash.

**The law** (`read_path`): the literal of any keys is read as these keys. It holds whichever spaces
the reader drops, as long as they are blanks: a key with a blank in it is written in quotes.

The reader goes from the left and ends an element without quotes at the first comma. So the proof is
one step for one element (`element_arrayElement`) and an induction on the keys.
-/

set_option autoImplicit false

namespace RunFilter.ArrayLiteral

/-! ## The rule -/

/-- What stands up to the next quote that no backslash protects, and what follows that quote. -/
def quoted : List Char → Option (List Char × List Char)
  | [] => none
  | '"' :: cs => some ([], cs)
  | '\\' :: c :: cs => (quoted cs).map fun (text, rest) => (c :: text, rest)
  | c :: cs => (quoted cs).map fun (text, rest) => (c :: text, rest)

section

variable (space : Char → Bool)

/-- The text without the spaces at both ends. -/
def trim (cs : List Char) : List Char :=
  ((cs.dropWhile space).reverse.dropWhile space).reverse

/-- A character that may not stand in an element without quotes. -/
def isReserved (c : Char) : Bool := c == '\x7b' || c == '\x7d' || c == '"' || c == '\\'

/-- **An element without quotes**: a text, or NULL. -/
def bare (cs : List Char) : Option (Option String) :=
  let text := trim space cs
  if text.isEmpty || text.any isReserved then none
  else if text.map Char.toLower == ['n', 'u', 'l', 'l'] then some none
  else some (some (String.ofList text))

/-- Behind an element the literal ends, or a comma and more elements follow. -/
def behindElement : List Char → Option (Option (List Char))
  | [] => some none
  | ',' :: cs => some (some cs)
  | _ => none

/-- **One element**, and what follows its comma if it has one. -/
def element (cs : List Char) : Option (Option String × Option (List Char)) :=
  match cs.dropWhile space with
  | '"' :: body => do
    let (text, rest) ← quoted body
    let next ← behindElement (rest.dropWhile space)
    pure (some (String.ofList text), next)
  | _ => do
    let text ← bare space (cs.takeWhile (· != ','))
    let next ← behindElement (cs.dropWhile (· != ','))
    pure (text, next)

variable {space}

theorem length_behindElement {cs more : List Char} (h : behindElement cs = some (some more)) :
    more.length < cs.length := by
  unfold behindElement at h
  split at h
  · cases h
  · cases h
    exact Nat.lt_succ_self _
  · cases h

theorem length_quoted {cs text rest : List Char} (h : quoted cs = some (text, rest)) :
    rest.length < cs.length := by
  fun_induction quoted cs generalizing text with
  | case1 => cases h
  | case2 cs =>
    cases h
    exact Nat.lt_succ_self _
  | case3 c cs ih =>
    obtain ⟨⟨text', rest'⟩, inner, eq⟩ := Option.map_eq_some_iff.mp h
    cases eq
    have := ih inner
    simp only [List.length_cons]
    omega
  | case4 c cs _ _ ih =>
    obtain ⟨⟨text', rest'⟩, inner, eq⟩ := Option.map_eq_some_iff.mp h
    cases eq
    exact Nat.lt_succ_of_lt (ih inner)

/-- An element takes a character, its comma. -/
theorem length_element {cs more : List Char} {e : Option String}
    (h : element space cs = some (e, some more)) : more.length < cs.length := by
  have drop_le : ∀ (p : Char → Bool) (ds : List Char), (ds.dropWhile p).length ≤ ds.length :=
    fun p _ => (List.dropWhile_sublist p).length_le
  unfold element at h
  split at h
  next body opened =>
    simp only [Option.bind_eq_bind, Option.bind_eq_some_iff, Option.pure_def, Option.some.injEq,
      Prod.mk.injEq] at h
    obtain ⟨⟨text, rest⟩, inner, next, behind, rfl, rfl⟩ := h
    have dropped := drop_le space cs
    rw [opened, List.length_cons] at dropped
    have := length_quoted inner
    have : more.length < (rest.dropWhile space).length := length_behindElement behind
    have := drop_le space rest
    omega
  next =>
    simp only [Option.bind_eq_bind, Option.bind_eq_some_iff, Option.pure_def, Option.some.injEq,
      Prod.mk.injEq] at h
    obtain ⟨text, _, next, behind, rfl, rfl⟩ := h
    have := length_behindElement behind
    have := drop_le (· != ',') cs
    omega

variable (space)

/-- **Elements up to the end** of a text. -/
def elements (cs : List Char) : Option (List (Option String)) :=
  match _h : element space cs with
  | none => none
  | some (e, none) => some [e]
  | some (e, some more) => (elements more).map (e :: ·)
termination_by cs.length
decreasing_by exact length_element _h

/-- What stands between the braces of a literal. -/
def inside : List Char → Option (List Char)
  | '\x7b' :: cs => if cs.getLast? = some '\x7d' then some cs.dropLast else none
  | _ => none

/-- **The elements of an array literal**, `none` among them for NULL. -/
def read (s : String) : Option (List (Option String)) := do
  let cs ← inside s.toList
  if cs.all space then pure [] else elements space cs

/-! ## One element -/

theorem quoted_cons {c : Char} (quote : c ≠ '"') (slash : c ≠ '\\') (cs : List Char) :
    quoted (c :: cs) = (quoted cs).map fun (text, rest) => (c :: text, rest) := by
  rw [quoted]
  · exact quote
  · intro _ _ eq
    exact absurd eq slash

/-- Quotes and escapes are undone by one scan. -/
theorem quoted_escaped (key rest : List Char) :
    quoted (Dialect.escapeWith (fun c => c == '\\' || c == '"') key ++ '"' :: rest) =
      some (key, rest) := by
  induction key with
  | nil => rfl
  | cons c key ih =>
    simp only [Dialect.escapeWith, List.flatMap_cons] at ih ⊢
    by_cases escaped : (c == '\\' || c == '"') = true
    · simp only [escaped, if_true, List.cons_append, List.nil_append, quoted, ih, Option.map_some]
    · rw [if_neg escaped]
      simp only [Bool.or_eq_true, beq_iff_eq, not_or] at escaped
      rw [List.singleton_append, List.cons_append, quoted_cons escaped.2 escaped.1, ih,
        Option.map_some]

variable {space}

/-- A text without spaces has none at its ends. -/
theorem trim_eq_self {cs : List Char} (h : ∀ c ∈ cs, space c = false) : trim space cs = cs := by
  have kept : ∀ ds : List Char, (∀ c ∈ ds, space c = false) → ds.dropWhile space = ds := by
    intro ds none
    cases ds with
    | nil => rfl
    | cons d ds => exact List.dropWhile_cons_of_neg (by simp [none d])
  rw [trim, kept cs h, kept cs.reverse (by simpa using h), List.reverse_reverse]

/-- What a key that needs no quotes is like. -/
theorem needsQuotes_eq_false_iff {key : List Char} :
    Dialect.needsQuotes key = false ↔
      key ≠ [] ∧ key.map Char.toLower ≠ ['n', 'u', 'l', 'l'] ∧
        ∀ c ∈ key, Dialect.isArraySyntax c = false := by
  simp [Dialect.needsQuotes, and_assoc]

/-- What a character without a meaning in literals is not. -/
theorem isArraySyntax_eq_false_iff {c : Char} :
    Dialect.isArraySyntax c = false ↔ Text.isBlank c = false ∧ c ≠ ',' ∧ isReserved c = false := by
  simp [Dialect.isArraySyntax, isReserved, and_assoc]

theorem element_quoted {cs body : List Char} (h : cs.dropWhile space = '"' :: body) :
    element space cs = (do
      let (text, rest) ← quoted body
      let next ← behindElement (rest.dropWhile space)
      pure (some (String.ofList text), next)) := by
  rw [element, h]
  rfl

theorem element_bare {cs : List Char} (h : ∀ body, cs.dropWhile space ≠ '"' :: body) :
    element space cs = (do
      let text ← bare space (cs.takeWhile (· != ','))
      let next ← behindElement (cs.dropWhile (· != ','))
      pure (text, next)) := by
  unfold element
  split
  next body eq => exact absurd eq (h body)
  next => rfl

theorem elements_last {cs : List Char} {e : Option String}
    (h : element space cs = some (e, none)) : elements space cs = some [e] := by
  rw [elements, h]

theorem elements_more {cs more : List Char} {e : Option String}
    (h : element space cs = some (e, some more)) :
    elements space cs = (elements space more).map (e :: ·) := by
  rw [elements, h]

end

section

variable {space : Char → Bool} (blank : ∀ c, space c = true → Text.isBlank c = true)

include blank

theorem space_eq_false {c : Char} (visible : Text.isBlank c = false) : space c = false := by
  by_contra spaced
  simp [blank c (by simpa using spaced)] at visible

/-- No spaces are dropped where a visible character stands. -/
theorem dropWhile_of_visible {cs : List Char} (visible : ∀ c ∈ cs.head?, Text.isBlank c = false) :
    cs.dropWhile space = cs := by
  cases cs with
  | nil => rfl
  | cons c cs =>
    apply List.dropWhile_cons_of_neg
    simp [space_eq_false blank (visible c rfl)]

/-- A key without quotes is read as itself. -/
theorem bare_of_plain {key : List Char} (plain : Dialect.needsQuotes key = false) :
    bare space key = some (some (String.ofList key)) := by
  obtain ⟨filled, named, clear⟩ := needsQuotes_eq_false_iff.mp plain
  have unspaced : ∀ c ∈ key, space c = false :=
    fun c mem => space_eq_false blank (isArraySyntax_eq_false_iff.mp (clear c mem)).1
  have unreserved : key.any isReserved = false := by
    rw [List.any_eq_false]
    intro c mem
    simp [(isArraySyntax_eq_false_iff.mp (clear c mem)).2.2]
  simp [bare, trim_eq_self unspaced, filled, unreserved, named]

variable {tail : List Char} (ends : ∀ c ∈ tail.head?, c = ',')

include ends

/-- A key in quotes. -/
theorem element_of_quoted {key : List Char} (quotes : Dialect.needsQuotes key = true) :
    element space (Dialect.arrayElement key ++ tail) =
      (behindElement tail).map fun next => (some (String.ofList key), next) := by
  have written : Dialect.arrayElement key ++ tail =
      '"' :: (Dialect.escapeWith (fun c => c == '\\' || c == '"') key ++ '"' :: tail) := by
    simp [Dialect.arrayElement, quotes]
  have opening : (Dialect.arrayElement key ++ tail).dropWhile space =
      '"' :: (Dialect.escapeWith (fun c => c == '\\' || c == '"') key ++ '"' :: tail) := by
    rw [written]
    apply dropWhile_of_visible blank
    rintro c ⟨⟩
    rfl
  have behind : tail.dropWhile space = tail := by
    apply dropWhile_of_visible blank
    intro c mem
    rw [ends c mem]
    rfl
  rw [element_quoted opening, quoted_escaped]
  simp only [Option.bind_eq_bind, Option.bind_some, behind]
  cases behindElement tail <;> rfl

/-- A key without quotes ends at the first comma, which is the one behind it. -/
theorem element_of_plain {key : List Char} (plain : Dialect.needsQuotes key = false) :
    element space (Dialect.arrayElement key ++ tail) =
      (behindElement tail).map fun next => (some (String.ofList key), next) := by
  obtain ⟨filled, _, clear⟩ := needsQuotes_eq_false_iff.mp plain
  have written : Dialect.arrayElement key = key := by simp [Dialect.arrayElement, plain]
  have unquoted : ∀ body, (key ++ tail).dropWhile space ≠ '"' :: body := by
    intro body
    obtain ⟨c, cs, rfl⟩ := List.exists_cons_of_ne_nil filled
    have character := isArraySyntax_eq_false_iff.mp (clear c List.mem_cons_self)
    rw [dropWhile_of_visible blank (by simp [character.1])]
    rintro ⟨⟩
    exact absurd character.2.2 (by decide)
  have uncut : ∀ c ∈ key, (c != ',') = true := by
    intro c mem
    simpa using (isArraySyntax_eq_false_iff.mp (clear c mem)).2.1
  have cut : tail.takeWhile (· != ',') = [] ∧ tail.dropWhile (· != ',') = tail := by
    cases tail with
    | nil => exact ⟨rfl, rfl⟩
    | cons c cs =>
      obtain rfl : c = ',' := ends c rfl
      exact ⟨rfl, rfl⟩
  rw [written, element_bare unquoted, List.takeWhile_append_of_pos uncut,
    List.dropWhile_append_of_pos uncut, cut.1, cut.2, List.append_nil, bare_of_plain blank plain]
  cases behindElement tail <;> rfl

/-- **One key**: its element is read up to the comma behind it or the end. -/
theorem element_arrayElement (key : List Char) :
    element space (Dialect.arrayElement key ++ tail) =
      (behindElement tail).map fun next => (some (String.ofList key), next) := by
  cases quotes : Dialect.needsQuotes key with
  | true => exact element_of_quoted blank ends quotes
  | false => exact element_of_plain blank ends quotes

omit ends

/-! ## The law -/

/-- **The keys between the braces** are read back. -/
theorem elements_intercalate (key : List Char) (keys : List (List Char)) :
    elements space (List.intercalate [','] ((key :: keys).map Dialect.arrayElement)) =
      some ((key :: keys).map fun key => some (String.ofList key)) := by
  induction keys generalizing key with
  | nil =>
    have none : ∀ c ∈ ([] : List Char).head?, c = ',' := by simp
    have one := element_arrayElement blank none key
    rw [List.append_nil] at one
    rw [List.map_singleton, List.intercalate_singleton]
    exact elements_last one
  | cons next keys ih =>
    have comma : ∀ c ∈ (',' :: List.intercalate [',']
        ((next :: keys).map Dialect.arrayElement)).head?, c = ',' := by
      simp
    have one := element_arrayElement blank comma key
    rw [List.map_cons, List.map_cons, List.intercalate_cons_cons, List.append_assoc,
      ← List.map_cons, List.singleton_append, elements_more one, ih, Option.map_some,
      List.map_cons (a := key)]

/-- An element has a character that is no space. -/
theorem exists_solid_arrayElement (key : List Char) :
    ∃ c ∈ Dialect.arrayElement key, space c = false := by
  cases quotes : Dialect.needsQuotes key with
  | true =>
    exact ⟨'"', by simp [Dialect.arrayElement, quotes], space_eq_false blank rfl⟩
  | false =>
    obtain ⟨filled, -, clear⟩ := needsQuotes_eq_false_iff.mp quotes
    obtain ⟨c, mem⟩ := List.exists_mem_of_ne_nil key filled
    exact ⟨c, by simpa [Dialect.arrayElement, quotes] using mem,
      space_eq_false blank (isArraySyntax_eq_false_iff.mp (clear c mem)).1⟩

end

theorem inside_braces (cs : List Char) : inside ('\x7b' :: cs ++ ['\x7d']) = some cs := by
  simp [inside]

/-- **The path to a text in a document, read as an array literal, is the list of its keys**,
whatever stands in them. -/
theorem read_path (space : Char → Bool) (blank : ∀ c, space c = true → Text.isBlank c = true)
    (keys : List String) : read space (Dialect.path keys .postgres) = some (keys.map some) := by
  have written : (Dialect.path keys .postgres).toList =
      '\x7b' :: List.intercalate [','] ((keys.map String.toList).map Dialect.arrayElement) ++
        ['\x7d'] := by
    simp [Dialect.path, Function.comp_def]
  rw [read, written, inside_braces]
  cases keys with
  | nil => rfl
  | cons key keys =>
    have filled : (List.intercalate [',']
        (((key :: keys).map String.toList).map Dialect.arrayElement)).all space = false := by
      obtain ⟨c, mem, solid⟩ := exists_solid_arrayElement blank key.toList
      rw [List.all_eq_false]
      refine ⟨c, ?_, by simp [solid]⟩
      cases keys <;> simp [mem]
    simp only [Option.bind_eq_bind, Option.bind_some, filled]
    rw [if_neg (by simp), List.map_cons, elements_intercalate blank]
    simp [Function.comp_def]

/-- Keys that a literal would mistake for no element, for NULL, for two elements, for a quoted one
or for the end of the array. -/
theorem read_path_mistakable :
    (∀ c, Char.isWhitespace c = true → Text.isBlank c = true) ∧
      read Char.isWhitespace
          (Dialect.path ["", "NULL", "a,b", "\x7b\"x\\\"\x7d", " b\t", "plain"] .postgres) =
        some [some "", some "NULL", some "a,b", some "\x7b\"x\\\"\x7d", some " b\t",
          some "plain"] :=
  ⟨fun _ => Text.isBlank_of_isWhitespace,
    read_path Char.isWhitespace (fun _ => Text.isBlank_of_isWhitespace)
      ["", "NULL", "a,b", "\x7b\"x\\\"\x7d", " b\t", "plain"]⟩

end RunFilter.ArrayLiteral
