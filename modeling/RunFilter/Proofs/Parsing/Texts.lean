import Mathlib.Data.List.TakeWhile
import RunFilter.Proofs.Parsing.Filter

/-!
# Texts side by side

`Reads cs ts` says that the characters `cs` have the tokens `ts`, places aside; these are the tokens
of `tokenize` (`tokenize_eq_ok_iff_reads`).

**The law** (`Reads.append`): the tokens of two texts that stand side by side are those of the one
and then those of the other, if the second text begins with a character that separates. A
parenthesis does: it continues neither a name nor a numeral, and it makes no longer sign of the
character before it.
-/

set_option autoImplicit false

namespace RunFilter

/-- **A character that separates** what stands before it from what follows: it is no part of a
name, and of no numeral or sign that is longer than one character. -/
structure Separates (c : Char) : Prop where
  name : Text.isNamePart c = false
  sign : c ≠ '=' ∧ c ≠ '.' ∧ c ≠ '+' ∧ c ≠ '-'

theorem Separates.digit {c : Char} (h : Separates c) : Text.isDigit c = false := by
  have := h.name
  rw [Text.isNamePart, Bool.or_eq_false_iff] at this
  exact this.2

/-! ## Spans -/

section

variable {p : Char → Bool} {c : Char}

theorem takeWhile_append_cons (stop : p c = false) (cs ds : List Char) :
    (cs ++ c :: ds).takeWhile p = cs.takeWhile p := by
  induction cs with
  | nil => simp [stop]
  | cons b cs ih => simp only [List.cons_append, List.takeWhile_cons, ih]

theorem dropWhile_append_cons (stop : p c = false) (cs ds : List Char) :
    (cs ++ c :: ds).dropWhile p = cs.dropWhile p ++ c :: ds := by
  induction cs with
  | nil => simp [stop]
  | cons b cs ih =>
    simp only [List.cons_append, List.dropWhile_cons, ih]
    split <;> rfl

theorem dropWhile_takeWhile (cs : List Char) : (cs.takeWhile p).dropWhile p = [] :=
  List.dropWhile_eq_nil_iff.mpr fun _ mem => List.mem_takeWhile_imp mem

theorem length_dropWhile_le (cs : List Char) : (cs.dropWhile p).length ≤ cs.length :=
  (List.dropWhile_sublist p).length_le

end

/-! ## Numerals -/

namespace Numeral

variable {c : Char}

theorem scanSign_append (h : Separates c) (cs ds : List Char) :
    scanSign (cs ++ c :: ds) = ((scanSign cs).1, (scanSign cs).2 ++ c :: ds) := by
  cases cs with
  | nil => simp [scanSign, h.sign]
  | cons b cs =>
    by_cases minus : b = '-'
    · subst minus
      rfl
    · simp [scanSign, minus]

theorem scanFraction_append (h : Separates c) (cs ds : List Char) :
    scanFraction (cs ++ c :: ds) = ((scanFraction cs).1, (scanFraction cs).2 ++ c :: ds) := by
  match cs with
  | [] => simp [scanFraction, h.sign]
  | [b] =>
    by_cases point : b = '.'
    · simp [scanFraction, point, h.digit]
    · simp [scanFraction, point]
  | b :: d :: cs =>
    by_cases point : b = '.'
    · by_cases digit : Text.isDigit d = true <;>
        simp [scanFraction, point, digit, takeWhile_append_cons h.digit,
          dropWhile_append_cons h.digit]
    · simp [scanFraction, point]

theorem scanExponent_append (h : Separates c) (cs ds : List Char) :
    scanExponent (cs ++ c :: ds) = ((scanExponent cs).1, (scanExponent cs).2 ++ c :: ds) := by
  have letter : (c == 'e' || c == 'E') = false := by
    have := h.name
    simp only [Bool.or_eq_false_iff, beq_eq_false_iff_ne]
    constructor
    · rintro rfl
      exact absurd this (by decide)
    · rintro rfl
      exact absurd this (by decide)
  have sign : isSign c = false := by simp [isSign, h.sign]
  match cs with
  | [] => cases ds <;> simp [scanExponent, letter]
  | [b] => simp [scanExponent, h.digit, sign]
  | b :: d :: cs =>
    simp only [List.cons_append, scanExponent, takeWhile_append_cons h.digit,
      dropWhile_append_cons h.digit]
    split
    · split
      · rfl
      · split <;> rfl
    · rfl

/-- **A numeral ends where a separating character stands.** -/
theorem scan_append (h : Separates c) (cs ds : List Char) :
    scan (cs ++ c :: ds) = ((scan cs).1, (scan cs).2 ++ c :: ds) := by
  simp only [scan, scanSign_append h, takeWhile_append_cons h.digit, dropWhile_append_cons h.digit,
    scanFraction_append h, scanExponent_append h]

theorem length_scanFraction_le (cs : List Char) : (scanFraction cs).2.length ≤ cs.length := by
  unfold scanFraction
  split
  next d cs =>
    split
    · have := @length_dropWhile_le Text.isDigit cs
      simp only [List.length_cons]
      omega
    · exact Nat.le_refl _
  · exact Nat.le_refl _

theorem length_scanExponent_le (cs : List Char) : (scanExponent cs).2.length ≤ cs.length := by
  unfold scanExponent
  split
  next mark c cs =>
    have := @length_dropWhile_le Text.isDigit cs
    simp only [List.length_cons]
    split
    · split
      · simp only
        omega
      · split <;> simp only [List.length_cons] <;> omega
    · simp only [List.length_cons]
      omega
  · exact Nat.le_refl _

/-- A numeral takes a character. -/
theorem length_scan_lt {cs : List Char} (starts : Lexeme.startsNumeral cs = true) :
    (scan cs).2.length < cs.length := by
  have digits : ∀ {d ds}, Text.isDigit d = true →
      ((d :: ds).dropWhile Text.isDigit).length ≤ ds.length := by
    intro d ds digit
    rw [List.dropWhile_cons, if_pos digit]
    exact length_dropWhile_le ds
  have signed : ((scanSign cs).2.dropWhile Text.isDigit).length < cs.length := by
    unfold Lexeme.startsNumeral at starts
    split at starts
    next d ds =>
      have := @digits d ds starts
      simp only [scanSign, List.length_cons]
      omega
    next b bs minus =>
      have := @digits b bs starts
      have plain : b ≠ '-' := by
        rintro rfl
        exact absurd starts (by decide)
      have unsigned : scanSign (b :: bs) = (false, b :: bs) := by simp [scanSign, plain]
      rw [unsigned]
      simp only [List.length_cons]
      omega
    · cases starts
  have := length_scanExponent_le (scanFraction ((scanSign cs).2.dropWhile Text.isDigit)).2
  have := length_scanFraction_le ((scanSign cs).2.dropWhile Text.isDigit)
  simp only [scan]
  omega

end Numeral

/-! ## Single tokens -/

namespace Lexeme

variable {c : Char} {t : Token}

/-- What is read where no sign, no quoted text and no numeral begins: a word or nothing. -/
def ofLetter (b : Char) (cs : List Char) : Lexeme :=
  if Text.isNameStart b then
    let word := b :: cs.takeWhile Text.isNamePart
    ⟨.ok (ofWord word), word, cs.dropWhile Text.isNamePart⟩
  else ⟨.error (.unexpectedCharacter b), [], b :: cs⟩

/-- **What the first character begins**: a sign, a symbol that `=` may follow, half a symbol that
`=` must follow, a quoted text, or else a numeral or a word. -/
theorem scan_forms (b : Char) :
    (∃ s, ∀ cs, scan (b :: cs) = ofSymbol s [b] cs) ∨
    (∃ s s', ∀ cs, scan (b :: cs) = ofComparison b (.ok s) (.ok s') cs) ∨
    (b = '=' ∧ ∀ cs, scan (b :: cs) = ofComparison b (.error .strayEquals) (.ok .equal) cs) ∨
    (b = '!' ∧ ∀ cs, scan (b :: cs) = ofComparison b (.error .strayBang) (.ok .notEqual) cs) ∨
    (∀ cs, scan (b :: cs) = ofQuoted b cs) ∨
    ∀ cs, scan (b :: cs) =
      if startsNumeral (b :: cs) then ofNumeral (b :: cs) else ofLetter b cs := by
  cases sign : signs.lookup b with
  | some s => exact .inl ⟨s, fun cs => by simp only [scan, sign]⟩
  | none =>
    refine .inr ?_
    by_cases less : (b == '<') = true
    · exact .inl ⟨.less, .lessEqual, fun cs => by simp only [scan, sign, if_pos less]⟩
    by_cases greater : (b == '>') = true
    · exact .inl ⟨.greater, .greaterEqual, fun cs => by
        simp only [scan, sign, if_neg less, if_pos greater]⟩
    refine .inr ?_
    by_cases equal : (b == '=') = true
    · exact .inl ⟨beq_iff_eq.mp equal, fun cs => by
        simp only [scan, sign, if_neg less, if_neg greater, if_pos equal]⟩
    refine .inr ?_
    by_cases bang : (b == '!') = true
    · exact .inl ⟨beq_iff_eq.mp bang, fun cs => by
        simp only [scan, sign, if_neg less, if_neg greater, if_neg equal, if_pos bang]⟩
    refine .inr ?_
    by_cases quote : (b == '"' || b == '\'') = true
    · exact .inl fun cs => by
        simp only [scan, sign, if_neg less, if_neg greater, if_neg equal, if_neg bang,
          if_pos quote]
    · exact .inr fun cs => by
        simp only [scan, sign, if_neg less, if_neg greater, if_neg equal, if_neg bang,
          if_neg quote, ofLetter]

/-- **The first character decides what is read**: a sign, a sign that `=` may follow, a quoted text,
or else a numeral or a word. -/
theorem scan_cases (b : Char) :
    (∃ s, ∀ cs, scan (b :: cs) = ofSymbol s [b] cs) ∨
    (∃ alone paired, ∀ cs, scan (b :: cs) = ofComparison b alone paired cs) ∨
    (∀ cs, scan (b :: cs) = ofQuoted b cs) ∨
    ∀ cs, scan (b :: cs) =
      if startsNumeral (b :: cs) then ofNumeral (b :: cs) else ofLetter b cs := by
  rcases scan_forms b with sign | ⟨s, s', read⟩ | ⟨_, read⟩ | ⟨_, read⟩ | rest
  · exact .inl sign
  · exact .inr (.inl ⟨_, _, read⟩)
  · exact .inr (.inl ⟨_, _, read⟩)
  · exact .inr (.inl ⟨_, _, read⟩)
  · exact .inr (.inr rest)

/-- **A lexeme with more text behind it**: the same outcome, and a longer rest. -/
def Before (tail : List Char) (long short : Lexeme) : Prop :=
  long.outcome = short.outcome ∧ long.rest = short.rest ++ tail

theorem ofComparison_single {b d : Char} (ne : d ≠ '=') (paired : Except Fault Symbol)
    (s : Symbol) (ds : List Char) :
    ofComparison b (.ok s) paired (d :: ds) = ofSymbol s [b] (d :: ds) := by
  simp only [ofComparison]
  split
  next eq => exact absurd (List.cons.inj eq).1 ne
  · rfl

theorem ofComparison_error {b d : Char} (ne : d ≠ '=') (paired : Except Fault Symbol)
    (fault : Fault) (ds : List Char) :
    ofComparison b (.error fault) paired (d :: ds) = ⟨.error fault, [], b :: d :: ds⟩ := by
  simp only [ofComparison]
  split
  next eq => exact absurd (List.cons.inj eq).1 ne
  · rfl

theorem before_ofComparison (h : Separates c) (b : Char) (alone paired : Except Fault Symbol)
    (cs ds : List Char) :
    Before (c :: ds) (ofComparison b alone paired (cs ++ c :: ds))
      (ofComparison b alone paired cs) := by
  cases cs with
  | nil =>
    cases alone with
    | ok s =>
      rw [List.nil_append, ofComparison_single h.sign.1]
      exact ⟨rfl, rfl⟩
    | error fault =>
      rw [List.nil_append, ofComparison_error h.sign.1]
      exact ⟨rfl, rfl⟩
  | cons d cs =>
    by_cases eq : d = '='
    · subst eq
      exact ⟨rfl, rfl⟩
    · rw [List.cons_append]
      cases alone with
      | ok s =>
        rw [ofComparison_single eq, ofComparison_single eq]
        exact ⟨rfl, rfl⟩
      | error fault =>
        rw [ofComparison_error eq, ofComparison_error eq]
        exact ⟨rfl, rfl⟩

theorem before_ofNumeral (h : Separates c) (cs ds : List Char) :
    Before (c :: ds) (ofNumeral (cs ++ c :: ds)) (ofNumeral cs) := by
  simp [Before, ofNumeral, Numeral.scan_append h]

theorem before_ofLetter (h : Separates c) (b : Char) (cs ds : List Char) :
    Before (c :: ds) (ofLetter b (cs ++ c :: ds)) (ofLetter b cs) := by
  unfold ofLetter
  split
  · simp [Before, takeWhile_append_cons h.name, dropWhile_append_cons h.name]
  · exact ⟨rfl, rfl⟩

/-- A quoted text is closed by the first quote of its kind. -/
theorem exists_close {q : Char} {cs : List Char} (ended : (ofQuoted q cs).outcome = .ok t) :
    ∃ rest, cs = cs.takeWhile (· != q) ++ q :: rest ∧
      ofQuoted q cs = ⟨.ok (.literal (.text (String.ofList (cs.takeWhile (· != q))))),
        q :: cs.takeWhile (· != q) ++ [q], rest⟩ := by
  have split := (List.takeWhile_append_dropWhile (p := (· != q)) (l := cs)).symm
  cases found : cs.dropWhile (· != q) with
  | nil =>
    simp only [ofQuoted, found] at ended
    cases ended
  | cons close rest =>
    have quote := List.head?_dropWhile_not (· != q) cs
    simp only [found, List.head?_cons, bne_eq_false_iff_eq] at quote
    subst quote
    rw [found] at split
    exact ⟨rest, split, by simp only [ofQuoted, found]⟩

theorem before_ofQuoted {q : Char} {cs : List Char} (ended : (ofQuoted q cs).outcome = .ok t)
    (tail : List Char) : Before tail (ofQuoted q (cs ++ tail)) (ofQuoted q cs) := by
  obtain ⟨rest, split, whole⟩ := exists_close ended
  have quote : (q != q) = false := bne_self_eq_false q
  have body : (cs ++ tail).takeWhile (· != q) = cs.takeWhile (· != q) := by
    rw [split, List.append_assoc, List.cons_append, takeWhile_append_cons (p := (· != q)) quote,
      takeWhile_append_cons (p := (· != q)) quote]
  have behind : (cs ++ tail).dropWhile (· != q) = q :: (rest ++ tail) := by
    rw [split, List.append_assoc, List.cons_append, dropWhile_append_cons (p := (· != q)) quote,
      dropWhile_takeWhile, List.nil_append]
  rw [whole]
  simp only [ofQuoted, body, behind]
  exact ⟨rfl, rfl⟩

theorem startsNumeral_append (h : Separates c) (b : Char) (cs ds : List Char) :
    startsNumeral (b :: (cs ++ c :: ds)) = startsNumeral (b :: cs) := by
  cases cs with
  | nil =>
    by_cases minus : b = '-'
    · subst minus
      exact h.digit
    · simp [startsNumeral, minus]
  | cons d cs =>
    by_cases minus : b = '-'
    · subst minus
      rfl
    · simp [startsNumeral, minus]

/-- **A token ends where a separating character stands.** -/
theorem before_scan (h : Separates c) {cs : List Char} (token : (scan cs).outcome = .ok t)
    (inside : t ≠ .endOfText) (ds : List Char) :
    Before (c :: ds) (scan (cs ++ c :: ds)) (scan cs) := by
  cases cs with
  | nil =>
    cases token
    exact absurd rfl inside
  | cons b cs =>
    rw [List.cons_append]
    rcases scan_cases b with ⟨s, read⟩ | ⟨alone, paired, read⟩ | read | read
    · rw [read, read]
      exact ⟨rfl, rfl⟩
    · rw [read, read]
      exact before_ofComparison h ..
    · rw [read] at token ⊢
      rw [read]
      exact before_ofQuoted token _
    · rw [read, read, startsNumeral_append h]
      split
      · exact before_ofNumeral h (b :: cs) ds
      · exact before_ofLetter h ..

/-- **A token takes a character.** -/
theorem length_scan_lt {cs : List Char} (token : (scan cs).outcome = .ok t)
    (inside : t ≠ .endOfText) : (scan cs).rest.length < cs.length := by
  cases cs with
  | nil =>
    cases token
    exact absurd rfl inside
  | cons b cs =>
    rcases scan_cases b with ⟨s, read⟩ | ⟨alone, paired, read⟩ | read | read
    · rw [read]
      exact Nat.lt_succ_self _
    · rw [read] at token ⊢
      unfold ofComparison at token ⊢
      split
      · exact Nat.lt_succ_of_lt (Nat.lt_succ_self _)
      next single =>
        split at token
        next eq => exact (single _ rfl).elim
        · cases alone with
          | ok s => exact Nat.lt_succ_self _
          | error fault => cases token
    · rw [read] at token ⊢
      obtain ⟨rest, split, whole⟩ := exists_close token
      rw [whole]
      have length := congrArg List.length split
      simp only [List.length_append, List.length_cons] at length ⊢
      omega
    · rw [read] at token ⊢
      split
      next starts => exact Numeral.length_scan_lt starts
      next starts =>
        rw [if_neg starts] at token
        unfold ofLetter at token ⊢
        split
        · exact Nat.lt_succ_of_le (length_dropWhile_le cs)
        next letter =>
          rw [if_neg letter] at token
          cases token

/-- **What a token is**: a symbol, a constant, or what its letters spell. -/
theorem token_cases {b : Char} {cs : List Char} (h : (scan (b :: cs)).outcome = .ok t) :
    (∃ s, t = .symbol s) ∨ (∃ value, t = .literal value) ∨ scan (b :: cs) = ofLetter b cs := by
  have of_map : ∀ {α : Type} {x : Except Fault α} {f : α → Token},
      x.map f = .ok t → ∃ a, t = f a := by
    intro α x f eq
    cases x with
    | error fault => cases eq
    | ok a => exact ⟨a, (Except.ok.inj eq).symm⟩
  rcases scan_cases b with ⟨s, read⟩ | ⟨alone, paired, read⟩ | read | read
  · rw [read] at h
    exact .inl ⟨s, (Except.ok.inj h).symm⟩
  · rw [read] at h
    unfold ofComparison at h
    split at h
    · exact .inl (of_map h)
    · cases alone with
      | ok s => exact .inl ⟨s, (Except.ok.inj h).symm⟩
      | error fault => cases h
  · rw [read] at h
    obtain ⟨rest, _, whole⟩ := exists_close h
    rw [whole] at h
    exact .inr (.inl ⟨_, (Except.ok.inj h).symm⟩)
  · rw [read] at h ⊢
    split at h
    · exact .inr (.inl (of_map h))
    next word => exact .inr (.inr (if_neg word))

theorem ofWord_ne_endOfText (word : List Char) : ofWord word ≠ .endOfText := by
  unfold ofWord
  split <;> simp

/-- The text ends where no characters are left. -/
theorem eq_nil_of_endOfText {cs : List Char} (h : (scan cs).outcome = .ok .endOfText) :
    cs = [] := by
  cases cs with
  | nil => rfl
  | cons b cs =>
    obtain ⟨s, eq⟩ | ⟨value, eq⟩ | word := token_cases h
    · cases eq
    · cases eq
    · rw [word, ofLetter] at h
      split at h
      · exact (ofWord_ne_endOfText _ (Except.ok.inj h)).elim
      · cases h

end Lexeme

/-! ## Whole texts -/

/-- **The tokens of a text**, places aside. -/
inductive Reads : List Char → List Token → Prop
  | finish {cs : List Char} (blank : cs.dropWhile Text.isBlank = []) : Reads cs []
  | token {cs : List Char} {t : Token} {ts : List Token}
      (h : (Lexeme.scan (cs.dropWhile Text.isBlank)).outcome = .ok t) (inside : t ≠ .endOfText)
      (more : Reads (Lexeme.scan (cs.dropWhile Text.isBlank)).rest ts) : Reads cs (t :: ts)

namespace Reads

variable {c : Char} {cs ds : List Char} {t : Token} {ts us : List Token}

/-- Blanks in front of a text do not count. -/
theorem of_dropWhile (h : Reads cs ts)
    (same : cs.dropWhile Text.isBlank = ds.dropWhile Text.isBlank) : Reads ds ts := by
  cases h with
  | finish blank => exact .finish (same ▸ blank)
  | token h inside more =>
    rw [same] at h more
    exact .token h inside more

/-- **Texts side by side.** -/
theorem append (h : Reads cs ts) (sep : Separates c) (behind : Reads (c :: ds) us) :
    Reads (cs ++ c :: ds) (ts ++ us) := by
  induction h with
  | finish blank =>
    refine behind.of_dropWhile ?_
    rw [List.dropWhile_append, blank]
    rfl
  | @token cs t ts token inside more ih =>
    obtain ⟨outcome, rest⟩ := Lexeme.before_scan sep token inside ds
    have filled : (cs.dropWhile Text.isBlank).isEmpty = false := by
      cases front : cs.dropWhile Text.isBlank with
      | nil =>
        rw [front] at token
        cases token
        exact absurd rfl inside
      | cons => rfl
    have front : (cs ++ c :: ds).dropWhile Text.isBlank = cs.dropWhile Text.isBlank ++ c :: ds := by
      rw [List.dropWhile_append, filled]
      rfl
    refine .token (front ▸ outcome.trans token) inside ?_
    rw [front, rest]
    exact ih

end Reads

namespace TokenStream

variable {fuel : Nat} {c : Cursor} {ts : List Token}

theorem scanFrom_of_error {e : SyntaxError} (h : c.next.outcome = .error e) :
    scanFrom fuel c = .broken e := by
  unfold scanFrom
  dsimp only
  split <;> simp_all

theorem scanFrom_of_end (h : c.next.outcome = .ok .endOfText) :
    scanFrom fuel c = .finish c.next.start := by
  unfold scanFrom
  dsimp only
  split <;> simp_all

theorem scanFrom_of_token {t : Token} (h : c.next.outcome = .ok t) (inside : t ≠ .endOfText) :
    scanFrom (fuel + 1) c = .cons t c.next.start (scanFrom fuel c.next.after) := by
  conv => lhs; unfold scanFrom
  dsimp only
  split <;> simp_all

/-- **The tokens of a stream** are those that its characters have, if the fuel covers them. -/
theorem toList_scanFrom (enough : c.rest.length ≤ fuel) :
    (scanFrom fuel c).toList = .ok ts ↔ Reads c.rest ts := by
  induction fuel generalizing c ts with
  | zero =>
    have none : c.rest = [] := List.length_eq_zero_iff.mp (Nat.le_zero.mp enough)
    have ended : c.next.outcome = .ok .endOfText := by
      simp [Cursor.next, Cursor.skipBlanks, none, Lexeme.scan, ok_mapError]
    rw [scanFrom_of_end ended, none, toList]
    constructor
    · intro h
      cases h
      exact .finish rfl
    · intro h
      cases h with
      | finish => rfl
      | token h inside =>
        cases h
        exact absurd rfl inside
  | succ fuel ih =>
    have outcome : c.next.outcome =
        (Lexeme.scan (c.rest.dropWhile Text.isBlank)).outcome.mapError (·.at c.next.start) := rfl
    cases found : (Lexeme.scan (c.rest.dropWhile Text.isBlank)).outcome with
    | error fault =>
      rw [found] at outcome
      rw [scanFrom_of_error outcome]
      constructor
      · intro h
        cases h
      · intro h
        cases h with
        | finish blank =>
          rw [blank] at found
          cases found
        | token h =>
          rw [found] at h
          cases h
    | ok t =>
      rw [found] at outcome
      by_cases inside : t = .endOfText
      · subst inside
        rw [scanFrom_of_end outcome, toList]
        constructor
        · intro h
          cases h
          exact .finish (Lexeme.eq_nil_of_endOfText found)
        · intro h
          cases h with
          | finish => rfl
          | token h inside =>
            rw [found] at h
            cases h
            exact absurd rfl inside
      · have shorter := Lexeme.length_scan_lt found inside
        have le := @length_dropWhile_le Text.isBlank c.rest
        have next : c.next.after.rest = (Lexeme.scan (c.rest.dropWhile Text.isBlank)).rest := rfl
        have ih := fun us => @ih c.next.after us (by rw [next]; omega)
        rw [scanFrom_of_token outcome inside, toList]
        constructor
        · intro h
          cases more : (scanFrom fuel c.next.after).toList with
          | error e =>
            rw [more] at h
            cases h
          | ok us =>
            rw [more] at h
            cases h
            exact .token found inside ((ih us).mp more)
        · intro h
          cases h with
          | finish blank =>
            rw [blank] at found
            cases found
            exact absurd rfl inside
          | token h _ more =>
            rw [found] at h
            cases h
            rw [(ih _).mpr more]
            rfl

end TokenStream

/-- **The tokens of a text are those of its characters.** -/
theorem tokenize_eq_ok_iff_reads {s : String} {ts : List Token} :
    tokenize s = .ok (ts ++ [.endOfText]) ↔ Reads s.toList ts := by
  have tokens := @TokenStream.toList_scanFrom s.toList.length (Cursor.ofString s) ts (Nat.le_refl _)
  rw [Cursor.ofString] at tokens
  rw [← tokens, tokenize, TokenStream.ofString, Cursor.ofString]
  cases (TokenStream.scanFrom s.toList.length ⟨0, s.toList⟩).toList with
  | error e =>
    constructor
    · intro h
      cases h
    · intro h
      cases h
  | ok us =>
    constructor
    · intro h
      exact congrArg _ (List.append_cancel_right (Except.ok.inj h))
    · intro h
      cases h
      rfl

end RunFilter
