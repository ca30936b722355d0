import Mathlib.Data.List.Basic
import RunFilter.Proofs.ArrayLiteral

/-!
# Paths into documents

SQLite takes the path to a text in a document as `$` with a segment for each key. Here is the rule
by which such paths are read: a segment is a dot and a label. A label in quotes ends at the next
quote that no backslash protects, and a backslash stands for the character behind it; this is the
rule of quoted array elements (`ArrayLiteral.quoted`). A label without quotes goes up to the next
dot or bracket and is not empty.

**The law** (`read_path_iff`): the path of keys is read as these keys exactly if no key has a
backslash. Quotes, dots, brackets, blanks and empty keys do no harm: such keys are written in
quotes, and the quotes inside are protected. A backslash is written as it is. It protects whatever
stands behind it, be it the closing quote, so that another key is read.

A backslash always shows, but not at once: of two in a row the first is read as itself. So the step
for one key (`not_mem_of_quoted`) is about a key with backslashes in front of it that are due.

`backslash_lost` are keys that are not read back.
-/

set_option autoImplicit false

namespace RunFilter.DocumentPath

open ArrayLiteral (quoted quoted_cons)

/-! ## The rule -/

/-- A character behind a label without quotes. -/
def endsLabel (c : Char) : Bool := c == '.' || c == '['

/-- A label without quotes, and what follows it. -/
def bare (cs : List Char) : Option (List Char × List Char) :=
  let label := cs.takeWhile fun c => !endsLabel c
  if label.isEmpty then none else some (label, cs.dropWhile fun c => !endsLabel c)

/-- **One segment**: the label behind a dot, and what follows it. -/
def segment : List Char → Option (List Char × List Char)
  | '.' :: '"' :: cs => quoted cs
  | '.' :: cs => bare cs
  | _ => none

/-- A segment takes a character, its dot. -/
theorem length_segment {cs label rest : List Char} (h : segment cs = some (label, rest)) :
    rest.length < cs.length := by
  unfold segment at h
  split at h
  next cs =>
    have shorter := ArrayLiteral.length_quoted h
    simp only [List.length_cons]
    omega
  next cs _ =>
    unfold bare at h
    dsimp only at h
    split at h
    · cases h
    · cases h
      exact Nat.lt_succ_of_le (List.dropWhile_sublist _).length_le
  · cases h

/-- **Segments up to the end** of a path. -/
def labels (cs : List Char) : Option (List (List Char)) :=
  if cs.isEmpty then some []
  else
    match _h : segment cs with
    | none => none
    | some (label, rest) => (labels rest).map (label :: ·)
termination_by cs.length
decreasing_by exact length_segment _h

/-- **The keys of a path.** -/
def read (s : String) : Option (List String) :=
  match s.toList with
  | '$' :: cs => (labels cs).map fun keys => keys.map String.ofList
  | _ => none

theorem labels_eq_cons {cs label : List Char} {more : List (List Char)} :
    labels cs = some (label :: more) ↔
      ∃ rest, segment cs = some (label, rest) ∧ labels rest = some more := by
  rw [labels]
  cases cs with
  | nil => simp [segment]
  | cons c cs =>
    rw [if_neg (by simp)]
    split
    next none => simp [none]
    next found => simp [found, and_comm]

/-! ## One key -/

section

variable {key tail rest : List Char}

/-- Without a backslash in a key, its quotes and escapes are undone by one scan. -/
theorem quoted_clear (clear : '\\' ∉ key) :
    quoted (Dialect.escapeWith (· == '"') key ++ '"' :: tail) = some (key, tail) := by
  have same : Dialect.escapeWith (· == '"') key =
      Dialect.escapeWith (fun c => c == '\\' || c == '"') key := by
    refine List.flatMap_congr fun c mem => ?_
    have other : c ≠ '\\' := fun eq => clear (eq ▸ mem)
    simp [other]
  rw [same, ArrayLiteral.quoted_escaped]

/-- What a character in front adds to the label. -/
theorem exists_label {c : Char} {label : List Char} {read : Option (List Char × List Char)}
    (h : (read.map fun (text, rest) => (c :: text, rest)) = some (label, rest)) :
    ∃ text, read = some (text, rest) ∧ c :: text = label := by
  obtain ⟨⟨text, _⟩, inner, eq⟩ := Option.map_eq_some_iff.mp h
  cases eq
  exact ⟨text, inner, rfl⟩

/-- No other character begins a text with backslashes in front. -/
theorem eq_of_replicate_append {n : Nat} {c d : Char} {label : List Char} (ne : d ≠ '\\')
    (h : List.replicate n '\\' ++ c :: key = d :: label) : n = 0 ∧ c = d ∧ key = label := by
  cases n with
  | zero => simpa using h
  | succ n =>
    rw [List.replicate_succ, List.cons_append, List.cons.injEq] at h
    exact absurd h.1.symm ne

theorem escaped_cons {c : Char} (quote : c ≠ '"') (key : List Char) :
    Dialect.escapeWith (· == '"') (c :: key) = c :: Dialect.escapeWith (· == '"') key := by
  simp [Dialect.escapeWith, quote]

mutual
/-- **A key in quotes is read as itself only if it has no backslash**, and never with backslashes
in front of it. -/
theorem not_mem_of_quoted : ∀ (key : List Char) (n : Nat),
    quoted (Dialect.escapeWith (· == '"') key ++ '"' :: tail) =
      some (List.replicate n '\\' ++ key, rest) → n = 0 ∧ '\\' ∉ key
  | [], n, h => by
    have read : ([], tail) = (List.replicate n '\\' ++ [], rest) := Option.some.inj h
    simpa using (congrArg Prod.fst read).symm
  | c :: key, n, h => by
    by_cases quote : c = '"'
    · subst quote
      obtain ⟨text, inner, eq⟩ := exists_label h
      obtain ⟨rfl, -, rfl⟩ := eq_of_replicate_append (by decide) eq.symm
      simpa using (not_mem_of_quoted key 0 inner).2
    rw [escaped_cons quote, List.cons_append] at h
    by_cases slash : c = '\\'
    · subst slash
      exact absurd h (quoted_backslash_ne key n)
    · rw [quoted_cons quote slash] at h
      obtain ⟨text, inner, eq⟩ := exists_label h
      obtain ⟨rfl, -, rfl⟩ := eq_of_replicate_append slash eq.symm
      simpa [Ne.symm slash] using (not_mem_of_quoted key 0 inner).2
/-- **A key behind a backslash is not read with the backslash.** What the backslash protects is read
in its place. If that is a backslash too, it is one fewer than the key begins with. -/
theorem quoted_backslash_ne : ∀ (key : List Char) (n : Nat),
    quoted ('\\' :: (Dialect.escapeWith (· == '"') key ++ '"' :: tail)) ≠
      some (List.replicate n '\\' ++ '\\' :: key, rest)
  | [], n, h => by
    obtain ⟨text, _, eq⟩ := exists_label (c := '"') h
    exact absurd (eq_of_replicate_append (by decide) eq.symm).2.1 (by decide)
  | c :: key, n, h => by
    by_cases quote : c = '"'
    · -- The backslash protects the one in front of the quote, and the quote ends the label.
      subst quote
      obtain ⟨text, inner, eq⟩ := exists_label (c := '\\') h
      obtain rfl : [] = text := congrArg Prod.fst (Option.some.inj inner)
      have same : 1 = n + (key.length + 2) := by simpa using congrArg List.length eq
      omega
    rw [escaped_cons quote, List.cons_append] at h
    obtain ⟨text, inner, eq⟩ := exists_label (c := c) h
    by_cases slash : c = '\\'
    · subst slash
      have due : text = List.replicate (n + 1) '\\' ++ key := by
        rw [← List.cons_inj_right '\\', eq, ← List.cons_append, ← List.replicate_succ]
        simp only [List.replicate_succ', List.append_assoc, List.cons_append, List.nil_append]
      exact absurd (not_mem_of_quoted key (n + 1) (due ▸ inner)).1 (Nat.succ_ne_zero n)
    · exact absurd (eq_of_replicate_append slash eq.symm).2.1 (Ne.symm slash)
end

/-- A key without quotes is a name, so it has no character with a meaning in paths. -/
theorem ne_of_isPlainLabel (plain : Dialect.isPlainLabel key = true) {c d : Char} (mem : c ∈ key)
    (other : Text.isNamePart d = false) : c ≠ d := by
  have letters : ∀ c ∈ key, Text.isNamePart c = true := by
    simp only [Dialect.isPlainLabel, Bool.and_eq_true] at plain
    exact List.all_eq_true.mp plain.2
  rintro rfl
  exact Bool.false_ne_true (other.symm.trans (letters c mem))

theorem ne_nil_of_isPlainLabel (plain : Dialect.isPlainLabel key = true) : key ≠ [] := by
  rintro rfl
  cases plain

/-- A label without quotes ends at the dot behind it. -/
theorem bare_of_plain (plain : Dialect.isPlainLabel key = true)
    (ends : ∀ c ∈ tail.head?, c = '.') : bare (key ++ tail) = some (key, tail) := by
  have inside : ∀ c ∈ key, (!endsLabel c) = true := by
    intro c mem
    have dot : c ≠ '.' := ne_of_isPlainLabel plain mem (by decide)
    have bracket : c ≠ '[' := ne_of_isPlainLabel plain mem (by decide)
    simp [endsLabel, dot, bracket]
  have cut : (tail.takeWhile fun c => !endsLabel c) = [] ∧
      (tail.dropWhile fun c => !endsLabel c) = tail := by
    cases tail with
    | nil => exact ⟨rfl, rfl⟩
    | cons c cs =>
      obtain rfl : c = '.' := ends c rfl
      exact ⟨rfl, rfl⟩
  rw [bare, List.takeWhile_append_of_pos inside, List.dropWhile_append_of_pos inside, cut.1, cut.2,
    List.append_nil]
  simp [ne_nil_of_isPlainLabel plain]

/-- **A key is the label of its segment exactly if it has no backslash.** Then the segment ends at
the dot behind it. -/
theorem segment_pathLabel (ends : ∀ c ∈ tail.head?, c = '.') :
    segment (Dialect.pathLabel key ++ tail) = some (key, rest) ↔ rest = tail ∧ '\\' ∉ key := by
  cases plain : Dialect.isPlainLabel key with
  | false =>
    have written : Dialect.pathLabel key ++ tail =
        '.' :: '"' :: (Dialect.escapeWith (· == '"') key ++ '"' :: tail) := by
      simp [Dialect.pathLabel, plain]
    rw [written, segment]
    constructor
    · intro h
      have clear := (not_mem_of_quoted key 0 h).2
      rw [quoted_clear clear] at h
      cases h
      exact ⟨rfl, clear⟩
    · rintro ⟨rfl, clear⟩
      exact quoted_clear clear
  | true =>
    have clear : '\\' ∉ key := fun mem => ne_of_isPlainLabel plain mem (by decide) rfl
    have written : Dialect.pathLabel key ++ tail = '.' :: (key ++ tail) := by
      simp [Dialect.pathLabel, plain]
    have unquoted : ∀ cs, key ++ tail ≠ '"' :: cs := by
      obtain ⟨c, letters, rfl⟩ := List.exists_cons_of_ne_nil (ne_nil_of_isPlainLabel plain)
      have quote : c ≠ '"' := ne_of_isPlainLabel plain List.mem_cons_self (by decide)
      simp [quote]
    rw [written, segment, bare_of_plain plain ends]
    · simp [clear, eq_comm]
    · exact unquoted

end

/-! ## The law -/

theorem head?_flatMap_pathLabel (keys : List (List Char)) :
    ∀ c ∈ (keys.flatMap Dialect.pathLabel).head?, c = '.' := by
  cases keys with
  | nil => simp
  | cons key keys => simp [Dialect.pathLabel]

/-- **Keys are read off their labels exactly if none has a backslash.** -/
theorem labels_flatMap (keys : List (List Char)) :
    labels (keys.flatMap Dialect.pathLabel) = some keys ↔ ∀ key ∈ keys, '\\' ∉ key := by
  induction keys with
  | nil => simp [labels]
  | cons key keys ih =>
    rw [List.flatMap_cons, labels_eq_cons, List.forall_mem_cons, ← ih]
    simp only [segment_pathLabel (head?_flatMap_pathLabel keys), and_assoc, exists_eq_left]

/-- **The path to a text in a document is read as the list of its keys exactly if no key has a
backslash.** -/
theorem read_path_iff (keys : List String) :
    read (Dialect.path keys .sqlite) = some keys ↔ ∀ key ∈ keys, '\\' ∉ key.toList := by
  have written : (Dialect.path keys .sqlite).toList =
      '$' :: (keys.map String.toList).flatMap Dialect.pathLabel := by
    simp [Dialect.path, List.flatMap_map]
  have spelled : (keys.map String.toList).map String.ofList = keys := by
    simp [Function.comp_def]
  have same : read (Dialect.path keys .sqlite) = some keys ↔
      labels ((keys.map String.toList).flatMap Dialect.pathLabel) =
        some (keys.map String.toList) := by
    simp only [read, written, Option.map_eq_some_iff]
    constructor
    · rintro ⟨found, read, rfl⟩
      simpa [Function.comp_def] using read
    · intro read
      exact ⟨_, read, spelled⟩
  rw [same, labels_flatMap, List.forall_mem_map]

/-- **A backslash in a key is lost.** At the end of a key it protects the closing quote; then the
label goes on into the next one, or does not end. -/
theorem backslash_lost :
    Dialect.path ["a\\b"] .sqlite = "$.\"a\\b\"" ∧
      read (Dialect.path ["a\\b"] .sqlite) = some ["ab"] ∧
      read (Dialect.path ["a\\", ".b"] .sqlite) = some ["a\".", "b\""] ∧
      read (Dialect.path ["a\\"] .sqlite) = none := by
  decide +kernel

end RunFilter.DocumentPath
