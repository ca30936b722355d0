import RunFilter.Proofs.Parsing.Texts

/-!
# Lexemes

What one reading takes from a text. It takes a beginning of the text and leaves the rest as it is
(`Lexeme.taken_append_rest`), and what it takes for a token is read alone as that token
(`Lexeme.scan_taken`). So a token does not depend on the text behind it, though a reading looks up
to three characters ahead.

The two facts are proved along the first character, which decides what is read. Numerals are the
only lexemes with parts; these are regular (`Numeral.Regular`), and a regular numeral is read from
its characters.
-/

set_option autoImplicit false

namespace RunFilter

/-! ## Blanks -/

namespace Text

theorem toNat_of_isNamePart {c : Char} (part : isNamePart c = true) :
    (48 ≤ c.toNat ∧ c.toNat ≤ 57) ∨ (65 ≤ c.toNat ∧ c.toNat ≤ 90) ∨ c.toNat = 95 ∨
      (97 ≤ c.toNat ∧ c.toNat ≤ 122) := by
  simp only [isNamePart, isNameStart, isLetter, isDigit, Bool.or_eq_true, Bool.and_eq_true,
    decide_eq_true_eq, beq_iff_eq] at part
  rcases part with ((⟨low, high⟩ | ⟨low, high⟩) | rfl) | ⟨low, high⟩
  · exact .inr (.inr (.inr ⟨low, high⟩))
  · exact .inr (.inl ⟨low, high⟩)
  · exact .inr (.inr (.inl rfl))
  · exact .inl ⟨low, high⟩

theorem isDigit_of_isNameStart {c : Char} (start : isNameStart c = true) : isDigit c = false := by
  apply Bool.eq_false_iff.mpr
  intro digit
  simp only [isNameStart, isLetter, Bool.or_eq_true, Bool.and_eq_true, decide_eq_true_eq,
    beq_iff_eq] at start
  simp only [isDigit, Bool.and_eq_true, decide_eq_true_eq] at digit
  have high : c.toNat ≤ 57 := digit.2
  rcases start with (⟨low, _⟩ | ⟨low, _⟩) | rfl
  · have low : 97 ≤ c.toNat := low
    omega
  · have low : 65 ≤ c.toNat := low
    omega
  · revert high
    decide

theorem toNat_of_isBlank {c : Char} (blank : isBlank c = true) :
    c.toNat ≤ 32 ∨ 133 ≤ c.toNat := by
  simp only [isBlank, blanks, Ranges.holds, List.any_cons, List.any_nil, Bool.or_eq_true,
    Bool.and_eq_true, decide_eq_true_eq, Bool.or_false] at blank
  omega

end Text

/-- **Blanks separate** what stands before them from what follows. -/
theorem separates_of_isBlank {c : Char} (blank : Text.isBlank c = true) : Separates c := by
  have outside := Text.toNat_of_isBlank blank
  constructor
  · apply Bool.eq_false_iff.mpr
    intro part
    have inside := Text.toNat_of_isNamePart part
    omega
  · refine ⟨?_, ?_, ?_, ?_⟩ <;>
    · rintro rfl
      revert outside
      decide

/-! ## Spans -/

section

variable {p : Char → Bool} {cs ds : List Char}

/-- A span ends where a character stands that does not belong to it. -/
theorem takeWhile_append_stop (all : ∀ c ∈ cs, p c = true) (stop : ∀ c ∈ ds.head?, p c = false) :
    (cs ++ ds).takeWhile p = cs := by
  rw [List.takeWhile_append_of_pos all]
  cases ds with
  | nil => exact List.append_nil cs
  | cons d ds => rw [List.takeWhile_cons, stop d rfl, if_neg Bool.false_ne_true, List.append_nil]

theorem dropWhile_append_stop (all : ∀ c ∈ cs, p c = true) (stop : ∀ c ∈ ds.head?, p c = false) :
    (cs ++ ds).dropWhile p = ds := by
  rw [List.dropWhile_append_of_pos all]
  cases ds with
  | nil => rfl
  | cons d ds => rw [List.dropWhile_cons, stop d rfl, if_neg Bool.false_ne_true]

end

/-! ## Numerals -/

namespace Numeral

/-- The characters of a fraction. -/
def fractionChars : Option (List Char) → List Char
  | some digits => '.' :: digits
  | none => []

/-- The characters of an exponent. -/
def exponentChars : Option (Char × Option Char × List Char) → List Char
  | some (mark, sign, digits) => mark :: sign.toList ++ digits
  | none => []

theorem chars_eq (n : Numeral) :
    n.chars = (if n.negative then ['-'] else []) ++
      (n.whole ++ (fractionChars n.fraction ++ exponentChars n.exponent)) := by
  simp only [chars, List.append_assoc]
  rfl

theorem scanSign_append_rest (cs : List Char) :
    (if (scanSign cs).1 then ['-'] else []) ++ (scanSign cs).2 = cs := by
  unfold scanSign
  split <;> rfl

theorem scanFraction_append_rest (cs : List Char) :
    fractionChars (scanFraction cs).1 ++ (scanFraction cs).2 = cs := by
  unfold scanFraction
  split
  next d cs =>
    split
    · simp [fractionChars, List.takeWhile_append_dropWhile]
    · rfl
  · rfl

theorem scanExponent_append_rest (cs : List Char) :
    exponentChars (scanExponent cs).1 ++ (scanExponent cs).2 = cs := by
  unfold scanExponent
  split
  next mark c cs =>
    split
    · split
      · simp [exponentChars, List.takeWhile_append_dropWhile]
      · split
        · simp [exponentChars, List.takeWhile_append_dropWhile]
        · rfl
    · rfl
  · rfl

/-- **A numeral takes a beginning of the text.** -/
theorem chars_append_rest (cs : List Char) : (scan cs).1.chars ++ (scan cs).2 = cs := by
  rw [chars_eq]
  simp only [scan, List.append_assoc, scanExponent_append_rest, scanFraction_append_rest,
    List.takeWhile_append_dropWhile]
  exact scanSign_append_rest cs

/-- One digit or more. -/
def Digits (ds : List Char) : Prop := ds ≠ [] ∧ ∀ c ∈ ds, Text.isDigit c = true

/-- **The numerals that are read**: digits in each part, and in a fraction or an exponent one at
least. -/
structure Regular (n : Numeral) : Prop where
  whole : ∀ c ∈ n.whole, Text.isDigit c = true
  fraction : ∀ digits ∈ n.fraction, Digits digits
  exponent : ∀ parts ∈ n.exponent, (parts.1 = 'e' ∨ parts.1 = 'E') ∧
    (∀ c ∈ parts.2.1, isSign c = true) ∧ Digits parts.2.2

section

variable {d : Char}

theorem isDigit_of_mem_takeWhile {cs : List Char} :
    ∀ c ∈ cs.takeWhile Text.isDigit, Text.isDigit c = true :=
  fun _ mem => List.mem_takeWhile_imp mem

theorem Digits.of_takeWhile {cs : List Char} (digit : Text.isDigit d = true) :
    Digits (d :: cs.takeWhile Text.isDigit) :=
  ⟨List.cons_ne_nil _ _, List.forall_mem_cons.mpr ⟨digit, isDigit_of_mem_takeWhile⟩⟩

end

theorem digits_of_scanFraction (cs : List Char) :
    ∀ digits ∈ (scanFraction cs).1, Digits digits := by
  intro digits found
  unfold scanFraction at found
  split at found
  next d ds =>
    split at found
    next digit =>
      cases found
      exact .of_takeWhile digit
    next => cases found
  next => cases found

theorem regular_scanExponent (cs : List Char) :
    ∀ parts ∈ (scanExponent cs).1, (parts.1 = 'e' ∨ parts.1 = 'E') ∧
      (∀ c ∈ parts.2.1, isSign c = true) ∧ Digits parts.2.2 := by
  intro parts found
  unfold scanExponent at found
  split at found
  next mark c cs =>
    by_cases letter : (mark == 'e' || mark == 'E') = true
    · rw [if_pos letter] at found
      have letter : mark = 'e' ∨ mark = 'E' := by simpa using letter
      split at found
      next digit =>
        cases found
        exact ⟨letter, nofun, .of_takeWhile digit⟩
      next =>
        split at found
        next signed =>
          cases found
          rw [Bool.and_eq_true, Bool.not_eq_true', List.isEmpty_eq_false_iff] at signed
          refine ⟨letter, ?_, signed.2, isDigit_of_mem_takeWhile⟩
          intro c' eq
          cases eq
          exact signed.1
        next => cases found
    · rw [if_neg letter] at found
      cases found
  next => cases found

/-- The sign of an exponent is no digit. -/
theorem isDigit_of_isSign {c : Char} (sign : isSign c = true) : Text.isDigit c = false := by
  simp only [isSign, Bool.or_eq_true, beq_iff_eq] at sign
  rcases sign with rfl | rfl <;> rfl

theorem regular_scan (cs : List Char) : (scan cs).1.Regular where
  whole := isDigit_of_mem_takeWhile
  fraction := digits_of_scanFraction _
  exponent := regular_scanExponent _

section

variable {n : Numeral} {cs : List Char}

theorem Regular.head_exponentChars (h : n.Regular) :
    ∀ c ∈ (exponentChars n.exponent).head?, c = 'e' ∨ c = 'E' := by
  intro c mem
  cases found : n.exponent with
  | none =>
    rw [found] at mem
    cases mem
  | some parts =>
    rw [found] at mem
    cases mem
    exact (h.exponent parts found).1

/-- What follows the digits in front begins with a point or a mark. -/
theorem Regular.head_tail (h : n.Regular) :
    ∀ c ∈ (fractionChars n.fraction ++ exponentChars n.exponent).head?,
      c = '.' ∨ c = 'e' ∨ c = 'E' := by
  intro c mem
  cases found : n.fraction with
  | none =>
    rw [found] at mem
    exact .inr (h.head_exponentChars c mem)
  | some digits =>
    rw [found] at mem
    cases mem
    exact .inl rfl

theorem Regular.noDigit_tail (h : n.Regular) :
    ∀ c ∈ (fractionChars n.fraction ++ exponentChars n.exponent).head?,
      Text.isDigit c = false := by
  intro c mem
  rcases h.head_tail c mem with rfl | rfl | rfl <;> rfl

theorem Regular.scanExponent (h : n.Regular) :
    scanExponent (exponentChars n.exponent) = (n.exponent, []) := by
  cases found : n.exponent with
  | none => rfl
  | some parts =>
    obtain ⟨mark, sign, digits⟩ := parts
    obtain ⟨letter, signed, filled, all⟩ := h.exponent _ found
    have letter : (mark == 'e' || mark == 'E') = true := by simpa using letter
    obtain ⟨d, ds, rfl⟩ := List.exists_cons_of_ne_nil filled
    have taken : (d :: ds).takeWhile Text.isDigit = d :: ds := List.takeWhile_eq_self_iff.mpr all
    have dropped : (d :: ds).dropWhile Text.isDigit = [] := List.dropWhile_eq_nil_iff.mpr all
    obtain ⟨digit, all⟩ := List.forall_mem_cons.mp all
    cases sign with
    | none =>
      simpa [exponentChars, Numeral.scanExponent, letter, digit] using all
    | some c =>
      have sign : isSign c = true := signed c rfl
      have noDigit := isDigit_of_isSign sign
      simp [exponentChars, Numeral.scanExponent, letter, noDigit, sign, taken, dropped]

/-- A fraction ends where an exponent begins. -/
theorem Regular.scanFraction (h : n.Regular) (stop : ∀ c ∈ cs.head?, c = 'e' ∨ c = 'E') :
    scanFraction (fractionChars n.fraction ++ cs) = (n.fraction, cs) := by
  cases found : n.fraction with
  | none =>
    cases cs with
    | nil => rfl
    | cons c cs =>
      have point : c ≠ '.' := by
        rcases stop c rfl with rfl | rfl <;> decide
      simp [fractionChars, Numeral.scanFraction, point]
  | some digits =>
    obtain ⟨filled, all⟩ := h.fraction digits found
    obtain ⟨d, ds, rfl⟩ := List.exists_cons_of_ne_nil filled
    obtain ⟨digit, all⟩ := List.forall_mem_cons.mp all
    have noDigit : ∀ c ∈ cs.head?, Text.isDigit c = false := by
      intro c mem
      rcases stop c mem with rfl | rfl <;> rfl
    simp only [fractionChars, List.cons_append, Numeral.scanFraction, if_pos digit,
      takeWhile_append_stop all noDigit, dropWhile_append_stop all noDigit]

theorem scanSign_append_of_head {negative : Bool} (plain : ∀ c ∈ cs.head?, c ≠ '-') :
    scanSign ((if negative then ['-'] else []) ++ cs) = (negative, cs) := by
  cases negative with
  | true => rfl
  | false =>
    simp only [Bool.false_eq_true, if_false, List.nil_append]
    unfold scanSign
    split
    next => exact absurd rfl (plain '-' rfl)
    next => rfl

/-- **A regular numeral is read from its characters.** -/
theorem Regular.scan_chars (h : n.Regular) : scan n.chars = (n, []) := by
  have plain : ∀ c ∈ (n.whole ++ (fractionChars n.fraction ++ exponentChars n.exponent)).head?,
      c ≠ '-' := by
    rintro c mem rfl
    cases digits : n.whole with
    | nil =>
      rw [digits] at mem
      rcases h.head_tail _ mem with eq | eq | eq <;> cases eq
    | cons d ds =>
      rw [digits] at mem
      cases mem
      cases h.whole '-' (digits ▸ List.mem_cons_self)
  rw [chars_eq]
  simp only [scan, scanSign_append_of_head plain, takeWhile_append_stop h.whole h.noDigit_tail,
    dropWhile_append_stop h.whole h.noDigit_tail, h.scanFraction h.head_exponentChars,
    h.scanExponent]

end

/-- What begins as a numeral takes characters that begin as one. -/
theorem startsNumeral_chars {cs : List Char} (starts : Lexeme.startsNumeral cs = true) :
    Lexeme.startsNumeral (scan cs).1.chars = true := by
  unfold Lexeme.startsNumeral at starts
  split at starts
  next d ds =>
    simp [chars_eq, scan, scanSign, starts, Lexeme.startsNumeral]
  next c ds other =>
    have unsigned : scanSign (c :: ds) = (false, c :: ds) := by
      unfold scanSign
      split
      next eq =>
        obtain ⟨rfl, rfl⟩ := List.cons.inj eq
        cases starts
      next => rfl
    have plain : c ≠ '-' := by
      rintro rfl
      cases starts
    simp [chars_eq, scan, unsigned, starts, Lexeme.startsNumeral, plain]
  next => cases starts

end Numeral

/-! ## Lexemes -/

namespace Lexeme

variable {cs : List Char} {t : Token}

theorem ofComparison_append_rest {b : Char} {alone paired : Except Fault Symbol} :
    (ofComparison b alone paired cs).taken ++ (ofComparison b alone paired cs).rest = b :: cs := by
  unfold ofComparison
  split
  · rfl
  · cases alone <;> rfl

theorem ofQuoted_append_rest {q : Char} :
    (ofQuoted q cs).taken ++ (ofQuoted q cs).rest = q :: cs := by
  have split := List.takeWhile_append_dropWhile (p := (· != q)) (l := cs)
  unfold ofQuoted
  dsimp only
  split
  next ended =>
    rw [ended, List.append_nil] at split
    simp [split]
  next close rest found =>
    rw [found] at split
    simpa using split

theorem ofLetter_append_rest {b : Char} :
    (ofLetter b cs).taken ++ (ofLetter b cs).rest = b :: cs := by
  unfold ofLetter
  split
  · simp [List.takeWhile_append_dropWhile]
  · rfl

/-- **A reading takes a beginning of the text** and leaves the rest as it is. -/
theorem taken_append_rest (cs : List Char) : (scan cs).taken ++ (scan cs).rest = cs := by
  cases cs with
  | nil => rfl
  | cons b cs =>
    rcases scan_cases b with ⟨s, read⟩ | ⟨alone, paired, read⟩ | read | read
    · rw [read]
      rfl
    · rw [read]
      exact ofComparison_append_rest
    · rw [read]
      exact ofQuoted_append_rest
    · rw [read]
      split
      · exact Numeral.chars_append_rest (b :: cs)
      · exact ofLetter_append_rest

theorem ofComparison_taken {b : Char} {alone paired : Except Fault Symbol}
    (token : (ofComparison b alone paired cs).outcome = .ok t) :
    ∃ more, (ofComparison b alone paired cs).taken = b :: more ∧
      ofComparison b alone paired more = ⟨.ok t, b :: more, []⟩ := by
  unfold ofComparison at token ⊢
  split at token
  next rest => exact ⟨['='], rfl, congrArg (Lexeme.mk · [b, '='] []) token⟩
  next =>
    cases alone with
    | error fault => cases token
    | ok s =>
      cases token
      exact ⟨[], rfl, rfl⟩

theorem ofQuoted_taken {q : Char} (token : (ofQuoted q cs).outcome = .ok t) :
    ∃ more, (ofQuoted q cs).taken = q :: more ∧ ofQuoted q more = ⟨.ok t, q :: more, []⟩ := by
  obtain ⟨rest, _, whole⟩ := exists_close token
  rw [whole] at token ⊢
  cases token
  have quote : (q != q) = false := bne_self_eq_false q
  refine ⟨cs.takeWhile (· != q) ++ [q], rfl, ?_⟩
  simp only [ofQuoted, takeWhile_append_cons (p := (· != q)) quote,
    dropWhile_append_cons (p := (· != q)) quote, List.takeWhile_idem, dropWhile_takeWhile,
    List.nil_append, List.cons_append]

theorem ofNumeral_taken {b : Char} (starts : startsNumeral (b :: cs) = true)
    (token : (ofNumeral (b :: cs)).outcome = .ok t) :
    ∃ more, (ofNumeral (b :: cs)).taken = b :: more ∧ startsNumeral (b :: more) = true ∧
      ofNumeral (b :: more) = ⟨.ok t, b :: more, []⟩ := by
  have whole := Numeral.chars_append_rest (b :: cs)
  have begins := Numeral.startsNumeral_chars starts
  have again := (Numeral.regular_scan (b :: cs)).scan_chars
  cases chars : (Numeral.scan (b :: cs)).1.chars with
  | nil =>
    rw [chars] at begins
    cases begins
  | cons c more =>
    rw [chars] at whole begins again
    obtain rfl : c = b := (List.cons.inj whole).1
    refine ⟨more, chars, begins, ?_⟩
    simp only [ofNumeral, again, chars]
    exact congrArg (Lexeme.mk · (c :: more) []) token

/-- A name begins with no digit and no sign. -/
theorem startsNumeral_of_isNameStart {b : Char} (letter : Text.isNameStart b = true) :
    startsNumeral (b :: cs) = false := by
  have minus : b ≠ '-' := by
    rintro rfl
    cases letter
  have digit := Text.isDigit_of_isNameStart letter
  cases cs <;> simp [startsNumeral, minus, digit]

theorem ofLetter_taken {b : Char} (token : (ofLetter b cs).outcome = .ok t) :
    ∃ more, (ofLetter b cs).taken = b :: more ∧ Text.isNameStart b = true ∧
      ofLetter b more = ⟨.ok t, b :: more, []⟩ := by
  unfold ofLetter at token ⊢
  by_cases letter : Text.isNameStart b = true
  · rw [if_pos letter] at token ⊢
    cases token
    refine ⟨cs.takeWhile Text.isNamePart, rfl, letter, ?_⟩
    simp only [if_pos letter, List.takeWhile_idem, dropWhile_takeWhile]
  · rw [if_neg letter] at token
    cases token

/-- **A lexeme is read alone as the token that it was taken for.** -/
theorem scan_taken (token : (scan cs).outcome = .ok t) :
    scan (scan cs).taken = ⟨.ok t, (scan cs).taken, []⟩ := by
  cases cs with
  | nil =>
    cases token
    rfl
  | cons b cs =>
    rcases scan_cases b with ⟨s, read⟩ | ⟨alone, paired, read⟩ | read | read
    · rw [read] at token ⊢
      cases token
      exact read []
    · rw [read] at token ⊢
      obtain ⟨more, taken, alone⟩ := ofComparison_taken token
      rw [taken, read, alone]
    · rw [read] at token ⊢
      obtain ⟨more, taken, alone⟩ := ofQuoted_taken token
      rw [taken, read, alone]
    · rw [read] at token ⊢
      by_cases starts : startsNumeral (b :: cs) = true
      · rw [if_pos starts] at token ⊢
        obtain ⟨more, taken, begins, alone⟩ := ofNumeral_taken starts token
        rw [taken, read, if_pos begins, alone]
      · rw [if_neg starts] at token ⊢
        obtain ⟨more, taken, letter, alone⟩ := ofLetter_taken token
        have other : startsNumeral (b :: more) = false := startsNumeral_of_isNameStart letter
        rw [taken, read, other, if_neg Bool.false_ne_true, alone]

end Lexeme

end RunFilter
