import Mathlib.Data.Nat.Digits.Defs
import RunFilter.Proofs.Parsing.Segments

/-!
# Numerals in a text

A numeral is a text of the form `-?digits(.digits)?([eE][+-]?digits)?`. Where one begins, a reading
takes the longest that stands there (`Numeral.Proper.chars_prefix_scan`), though it decides on a
point or an exponent mark when it has seen no more than the two characters behind it.

The reason is that no part of a numeral but the first begins with a digit. So each stage of a
reading either stops where a shorter numeral has its next part, and then it has read the same, or
the shorter numeral has no more parts, and then it may end anywhere.

Whole numbers have their exact values or are refused (`Cursor.next_numeral`). The sign belongs to
the numeral, so the least number of 64 bits is read like all others.
-/

set_option autoImplicit false

namespace RunFilter

namespace Numeral

/-- **The numerals of the form `-?digits(.digits)?([eE][+-]?digits)?`**, taken apart. -/
structure Proper (n : Numeral) : Prop extends Regular n where
  filled : n.whole ≠ []

/-- The number that the sign and the digits in front stand for, each digit by its place. -/
def exact (n : Numeral) : Int :=
  (if n.negative then -1 else 1) * (Nat.ofDigits 10 (n.whole.reverse.map Text.digitValue) : Nat)

variable {n : Numeral}

/-! ## The value -/

theorem digitsValue_eq_ofDigits (cs : List Char) :
    Text.digitsValue cs = Nat.ofDigits 10 (cs.reverse.map Text.digitValue) := by
  rw [Nat.ofDigits_eq_foldr, List.foldr_map, List.foldr_reverse, Text.digitsValue]
  simp only [Nat.cast_id, Nat.add_comm, Nat.mul_comm]

theorem integer_eq_exact (n : Numeral) : n.integer = n.exact := by
  rw [integer, exact, digitsValue_eq_ofDigits]
  cases n.negative
  · exact (one_mul (_ : Int)).symm
  · exact (neg_one_mul (_ : Int)).symm

/-! ## The longest numeral -/

/-- Digits are read as far as they go, and perhaps further. -/
theorem prefix_takeWhile {ds : List Char} (all : ∀ c ∈ ds, Text.isDigit c = true)
    (rest : List Char) : ds <+: (ds ++ rest).takeWhile Text.isDigit := by
  rw [List.takeWhile_append_of_pos all]
  exact List.prefix_append ds _

/-- **An exponent is read as far as it goes.** -/
theorem Regular.exponentChars_prefix (h : n.Regular) (rest : List Char) :
    exponentChars n.exponent <+:
      exponentChars (Numeral.scanExponent (exponentChars n.exponent ++ rest)).1 := by
  cases found : n.exponent with
  | none => exact List.nil_prefix
  | some parts =>
    obtain ⟨mark, sign, digits⟩ := parts
    obtain ⟨letter, signed, filled, all⟩ := h.exponent _ found
    have letter : (mark == 'e' || mark == 'E') = true := by simpa using letter
    obtain ⟨d, ds, rfl⟩ := List.exists_cons_of_ne_nil filled
    have longer := prefix_takeWhile all rest
    have digit : Text.isDigit d = true := all d List.mem_cons_self
    rw [List.cons_append, List.takeWhile_cons, if_pos digit] at longer
    cases sign with
    | none =>
      simpa [exponentChars, Numeral.scanExponent, letter, digit] using longer
    | some c =>
      have sign : isSign c = true := signed c rfl
      have noDigit := isDigit_of_isSign sign
      simpa [exponentChars, Numeral.scanExponent, letter, noDigit, sign, digit] using longer

/-- **A fraction and an exponent are read as far as they go.** With an exponent behind it a fraction
ends where it ends; without, it may be read further. -/
theorem Regular.tail_prefix (h : n.Regular) (rest : List Char) :
    let tail := fractionChars n.fraction ++ exponentChars n.exponent
    tail <+: fractionChars (Numeral.scanFraction (tail ++ rest)).1 ++
      exponentChars (Numeral.scanExponent (Numeral.scanFraction (tail ++ rest)).2).1 := by
  intro tail
  cases found : n.exponent with
  | none =>
    have tail_eq : tail = fractionChars n.fraction := by simp [tail, found, exponentChars]
    rw [tail_eq]
    cases fraction : n.fraction with
    | none => exact List.nil_prefix
    | some digits =>
      obtain ⟨filled, all⟩ := h.fraction digits fraction
      obtain ⟨d, ds, rfl⟩ := List.exists_cons_of_ne_nil filled
      have longer := prefix_takeWhile all rest
      have digit : Text.isDigit d = true := all d List.mem_cons_self
      rw [List.cons_append, List.takeWhile_cons, if_pos digit] at longer
      refine List.IsPrefix.trans ?_ (List.prefix_append _ _)
      simpa [fractionChars, Numeral.scanFraction, digit] using longer
  | some parts =>
    have stop : ∀ c ∈ (exponentChars n.exponent ++ rest).head?, c = 'e' ∨ c = 'E' := by
      intro c mem
      rw [found] at mem
      cases mem
      exact (h.exponent parts found).1
    have exact : Numeral.scanFraction (tail ++ rest) =
        (n.fraction, exponentChars n.exponent ++ rest) := by
      rw [List.append_assoc]
      exact h.scanFraction stop
    rw [exact]
    exact (List.prefix_append_right_inj _).mpr (h.exponentChars_prefix rest)

/-- A numeral is its sign if it has one, its digits, and its tail. -/
theorem chars_scan_of_sign (negative : Bool) {text : List Char}
    (plain : ∀ c ∈ text.head?, c ≠ '-') :
    (scan ((if negative then ['-'] else []) ++ text)).1.chars =
      (if negative then ['-'] else []) ++ (text.takeWhile Text.isDigit ++
        (fractionChars (Numeral.scanFraction (text.dropWhile Text.isDigit)).1 ++
          exponentChars (Numeral.scanExponent
            (Numeral.scanFraction (text.dropWhile Text.isDigit)).2).1)) := by
  rw [chars_eq]
  simp only [scan, scanSign_append_of_head plain]

/-- **A reading takes the longest numeral**: at least each that stands there. -/
theorem Proper.chars_prefix_scan (h : n.Proper) (rest : List Char) :
    n.chars <+: (scan (n.chars ++ rest)).1.chars := by
  obtain ⟨d, ds, whole⟩ := List.exists_cons_of_ne_nil h.filled
  have plain : ∀ c ∈ (n.whole ++ (fractionChars n.fraction ++ exponentChars n.exponent) ++
      rest).head?, c ≠ '-' := by
    intro c mem
    rw [whole] at mem
    cases mem
    rintro rfl
    cases h.whole '-' (whole ▸ List.mem_cons_self)
  rw [chars_eq, List.append_assoc, chars_scan_of_sign n.negative plain]
  refine (List.prefix_append_right_inj _).mpr ?_
  have stop := h.noDigit_tail
  have longer := h.tail_prefix rest
  revert stop longer
  generalize fractionChars n.fraction ++ exponentChars n.exponent = tail
  intro stop longer
  rw [List.append_assoc]
  cases tail with
  | nil =>
    -- Nothing follows the digits, so the reading may find more of them.
    rw [List.append_nil, List.nil_append]
    exact (prefix_takeWhile h.whole rest).trans (List.prefix_append _ _)
  | cons c cs =>
    -- What follows begins with no digit, so both spans end there.
    have stop : ∀ b ∈ (c :: cs ++ rest).head?, Text.isDigit b = false := stop
    rw [takeWhile_append_stop h.whole stop, dropWhile_append_stop h.whole stop]
    exact (List.prefix_append_right_inj _).mpr longer

/-- **What is read where a numeral begins is a numeral**, with one digit at least. -/
theorem proper_scan {sign more : List Char} {d : Char} (signed : sign = [] ∨ sign = ['-'])
    (digit : Text.isDigit d = true) : (scan (sign ++ d :: more)).1.Proper := by
  refine ⟨regular_scan _, ?_⟩
  have plain : d ≠ '-' := by
    rintro rfl
    cases digit
  have unsigned : scanSign (d :: more) = (false, d :: more) :=
    @scanSign_append_of_head _ false fun c mem => Option.some.inj mem ▸ plain
  rcases signed with rfl | rfl
  · simp [scan, unsigned, digit]
  · simp [scan, scanSign, digit]

/-! ## Whole numbers in decimal -/

/-- The numeral of a whole number. -/
def ofInt (n : Int) : Numeral := ⟨decide (n < 0), Nat.toDigits 10 n.natAbs, none, none⟩

theorem isDigit_of_mem_toDigits {n : Nat} : ∀ c ∈ Nat.toDigits 10 n, Text.isDigit c = true :=
  fun _ mem => Nat.isDigit_of_mem_toDigits (by decide) (by decide) mem

theorem proper_ofInt (n : Int) : (ofInt n).Proper where
  whole := isDigit_of_mem_toDigits
  fraction := nofun
  exponent := nofun
  filled := Nat.toDigits_ne_nil

/-- **A whole number is written as its numeral.** -/
theorem chars_ofInt (n : Int) : (ofInt n).chars = (toString n).toList := by
  have text : (ofInt n).chars = (if n < 0 then ['-'] else []) ++ Nat.toDigits 10 n.natAbs := by
    simp [chars_eq, ofInt, fractionChars, exponentChars]
  rw [text, Int.toString_eq_repr, Int.repr_eq_if]
  by_cases negative : n < 0
  · have magnitude : (-n).toNat = n.natAbs := by omega
    rw [if_pos negative, if_neg (Int.not_le.mpr negative), String.toList_append, Nat.toList_repr,
      magnitude]
    rfl
  · have magnitude : n.toNat = n.natAbs := by omega
    rw [if_neg negative, if_pos (Int.not_lt.mp negative), Nat.toList_repr, magnitude,
      List.nil_append]

theorem digitsValue_toDigits (n : Nat) : Text.digitsValue (Nat.toDigits 10 n) = n := by
  have read := @Nat.ofDigitChars_toDigits 10 n (by decide) (by decide)
  rw [Nat.ofDigitChars_eq_foldl] at read
  simpa only [Text.digitsValue, Text.digitValue, Nat.mul_comm] using read

/-- **The numeral of a whole number has its value.** -/
theorem integer_ofInt (n : Int) : (ofInt n).integer = n := by
  have value : (ofInt n).integer = if n < 0 then -(n.natAbs : Int) else n.natAbs := by
    simp [integer, ofInt, digitsValue_toDigits]
  rw [value]
  by_cases negative : n < 0
  · rw [if_pos negative]
    omega
  · rw [if_neg negative]
    omega

theorem isWhole_iff : n.isWhole = true ↔ n.fraction = none ∧ n.exponent = none := by
  rw [isWhole, Bool.and_eq_true, Option.isNone_iff_eq_none, Option.isNone_iff_eq_none]

theorem isWord64_iff {n : Int} : isWord64 n = true ↔ -2 ^ 63 ≤ n ∧ n ≤ 2 ^ 63 - 1 := by
  rw [isWord64, Bool.and_eq_true, decide_eq_true_iff, decide_eq_true_iff]
  rfl

end Numeral

/-! ## Reading a numeral -/

namespace Lexeme

/-- A numeral begins with a digit or a minus sign. -/
theorem head_of_startsNumeral {b : Char} {cs : List Char}
    (starts : startsNumeral (b :: cs) = true) : (Text.isDigit b || b == '-') = true := by
  unfold startsNumeral at starts
  split at starts
  next d ds eq =>
    obtain ⟨rfl, _⟩ := List.cons.inj eq
    rfl
  next c ds _ eq =>
    obtain ⟨rfl, _⟩ := List.cons.inj eq
    rw [starts, Bool.true_or]
  next eq => cases eq

/-- A numeral begins where a digit stands, and where a digit stands behind a minus sign. -/
theorem startsNumeral_of_isDigit {sign : List Char} (signed : sign = [] ∨ sign = ['-']) {d : Char}
    (digit : Text.isDigit d = true) (more : List Char) :
    startsNumeral (sign ++ d :: more) = true := by
  rcases signed with rfl | rfl
  · have plain : d ≠ '-' := by
      rintro rfl
      cases digit
    simp [startsNumeral, digit, plain]
  · exact digit

/-- A numeral begins with no blank. -/
theorem noBlank_of_startsNumeral {cs : List Char} (starts : startsNumeral cs = true) :
    ∀ b ∈ cs.head?, Text.isBlank b = false := by
  cases cs with
  | nil => nofun
  | cons b cs =>
    intro b' eq
    obtain rfl : b = b' := Option.some.inj eq
    apply Bool.eq_false_iff.mpr
    intro blank
    have outside := Text.toNat_of_isBlank blank
    rcases Bool.or_eq_true_iff.mp (head_of_startsNumeral starts) with digit | minus
    · have part : Text.isNamePart b = true := by rw [Text.isNamePart, digit, Bool.or_true]
      have inside := Text.toNat_of_isNamePart part
      omega
    · rw [beq_iff_eq.mp minus] at outside
      revert outside
      decide

/-- **Where a numeral begins, a numeral is read**: nothing else begins with a digit or a minus
sign. -/
theorem scan_eq_ofNumeral {cs : List Char} (starts : startsNumeral cs = true) :
    scan cs = ofNumeral cs := by
  cases cs with
  | nil => cases starts
  | cons b cs =>
    have head := head_of_startsNumeral starts
    have other : ∀ c, (Text.isDigit c || c == '-') = false → (b == c) = false := by
      intro c outside
      apply beq_false_of_ne
      rintro rfl
      rw [head] at outside
      cases outside
    have sign : signs.lookup b = none := by
      apply List.lookup_eq_none_iff.mpr
      intro p mem
      have outside : (Text.isDigit p.1 || p.1 == '-') = false := by
        revert p
        decide
      rw [bne, other p.1 outside, Bool.not_false]
    simp only [scan, sign, other '<' rfl, other '>' rfl, other '=' rfl, other '!' rfl,
      other '"' rfl, other '\'' rfl, starts, Bool.or_self, Bool.false_eq_true, if_false, if_true]

end Lexeme

namespace Numeral

/-- **The report of a numeral.** A whole number has its exact value if it has 64 bits; all other
numerals are binary64 numbers, whatever their values. -/
theorem value_eq (n : Numeral) (offset : Nat) :
    (n.value.map Token.literal).mapError (·.at offset) =
      if n.fraction = none ∧ n.exponent = none then
        if -2 ^ 63 ≤ n.exact ∧ n.exact ≤ 2 ^ 63 - 1 then .ok (.literal (.int n.exact))
        else .error ⟨.tokenize, offset,
          "integer literal " ++ String.ofList n.chars ++ " is out of range", ""⟩
      else .ok (.literal (.float (Binary64.ofDecimal n.negative n.decimal))) := by
  rw [value, integer_eq_exact]
  by_cases whole : n.fraction = none ∧ n.exponent = none
  · rw [if_pos (isWhole_iff.mpr whole), if_pos whole]
    by_cases fits : -2 ^ 63 ≤ n.exact ∧ n.exact ≤ 2 ^ 63 - 1
    · rw [if_pos (isWord64_iff.mpr fits), if_pos fits]
      rfl
    · rw [if_neg (mt isWord64_iff.mp fits), if_neg fits]
      rfl
  · rw [if_neg (mt isWhole_iff.mp whole), if_neg whole]
    rfl

theorem Proper.startsNumeral_chars {n : Numeral} (h : n.Proper) :
    Lexeme.startsNumeral n.chars = true := by
  obtain ⟨d, ds, whole⟩ := List.exists_cons_of_ne_nil h.filled
  have digit : Text.isDigit d = true := h.whole d (whole ▸ List.mem_cons_self)
  rw [chars_eq, whole]
  refine Lexeme.startsNumeral_of_isDigit ?_ digit _
  cases n.negative
  · exact .inl rfl
  · exact .inr rfl

/-- **A whole number of 64 bits reads back as itself.** -/
theorem tokenize_toString {n : Int} (low : -2 ^ 63 ≤ n) (high : n ≤ 2 ^ 63 - 1) :
    tokenize (toString n) = .ok [.literal (.int n), .endOfText] := by
  have starts := (proper_ofInt n).startsNumeral_chars
  have value : (ofInt n).value = .ok (.int n) := by
    rw [value, integer_ofInt, if_pos (isWhole_iff.mpr ⟨rfl, rfl⟩),
      if_pos (isWord64_iff.mpr ⟨low, high⟩)]
  have regular : Segment.Regular ⟨.literal (.int n), (ofInt n).chars, []⟩ := by
    refine ⟨nofun, Lexeme.noBlank_of_startsNumeral starts, ?_, nofun⟩
    rw [Lexeme.scan_eq_ofNumeral starts, Lexeme.ofNumeral, (proper_ofInt n).scan_chars]
    simp only [value]
    rfl
  have read := regular.tokenize
  rwa [chars_ofInt, String.ofList_toList] at read

end Numeral

namespace Cursor

/-- One reading where a numeral begins, behind blanks. -/
theorem next_of_numeral {c : Cursor} {blanks text : List Char} (here : c.rest = blanks ++ text)
    (blank : ∀ b ∈ blanks, Text.isBlank b = true) (starts : Lexeme.startsNumeral text = true) :
    c.next = ⟨c.offset + Text.byteLength blanks,
      ((Numeral.scan text).1.value.map Token.literal).mapError
        (·.at (c.offset + Text.byteLength blanks)),
      ⟨c.offset + Text.byteLength blanks + Text.byteLength (Numeral.scan text).1.chars,
        (Numeral.scan text).2⟩⟩ := by
  have stop := Lexeme.noBlank_of_startsNumeral starts
  have skipped : c.skipBlanks = ⟨c.offset + Text.byteLength blanks, text⟩ := by
    rw [skipBlanks, here, takeWhile_append_stop blank stop, dropWhile_append_stop blank stop]
  rw [next, skipped]
  simp only [Lexeme.scan_eq_ofNumeral starts, Lexeme.ofNumeral]

/-- **Numerals are read by longest match and never wrap.** Take any place with blanks and then
digits in front of it, or a minus sign and digits. The reading starts behind the blanks and takes
the longest numeral that stands there, no more and no less. If it has neither a fraction nor an
exponent, the answer is its exact value, or a mistake at its first character if it does not have 64
bits. If it has one of them, the answer is a binary64 number, whatever its value.

So every whole number of 64 bits that is written in decimal reads back as itself. -/
theorem next_numeral :
    (∀ (c : Cursor) (blanks sign more : List Char) (d : Char),
      c.rest = blanks ++ (sign ++ d :: more) → (∀ b ∈ blanks, Text.isBlank b = true) →
      (sign = [] ∨ sign = ['-']) → Text.isDigit d = true →
      ∃ (n : Numeral) (rest : List Char),
        n.Proper ∧ sign ++ d :: more = n.chars ++ rest ∧
        (∀ m : Numeral, m.Proper → m.chars <+: sign ++ d :: more → m.chars <+: n.chars) ∧
        c.next.start = c.offset + Text.byteLength blanks ∧
        c.next.after = ⟨c.next.start + Text.byteLength n.chars, rest⟩ ∧
        c.next.outcome =
          if n.fraction = none ∧ n.exponent = none then
            if -2 ^ 63 ≤ n.exact ∧ n.exact ≤ 2 ^ 63 - 1 then .ok (.literal (.int n.exact))
            else .error ⟨.tokenize, c.next.start,
              "integer literal " ++ String.ofList n.chars ++ " is out of range", ""⟩
          else .ok (.literal (.float (Binary64.ofDecimal n.negative n.decimal)))) ∧
    ∀ n : Int, -2 ^ 63 ≤ n → n ≤ 2 ^ 63 - 1 →
      tokenize (toString n) = .ok [.literal (.int n), .endOfText] := by
  refine ⟨?_, fun n low high => Numeral.tokenize_toString low high⟩
  intro c blanks sign more d here blank signed digit
  have starts := Lexeme.startsNumeral_of_isDigit signed digit more
  have whole := Numeral.chars_append_rest (sign ++ d :: more)
  rw [next_of_numeral here blank starts]
  refine ⟨_, _, Numeral.proper_scan signed digit, whole.symm, ?_, rfl, rfl, Numeral.value_eq _ _⟩
  rintro m proper ⟨rest, text⟩
  rw [← text]
  exact proper.chars_prefix_scan rest

/-- A mark and a sign without a digit behind them are left for the next reading, and the least
number of 64 bits is read. -/
theorem next_numeral_backs_out :
    (∃ n : Numeral, n.Proper ∧ "1.5e+x".toList = n.chars ++ "e+x".toList ∧
      ∀ m : Numeral, m.Proper → m.chars <+: "1.5e+x".toList → m.chars <+: n.chars) ∧
    tokenize (toString (-2 ^ 63 : Int)) = .ok [.literal (.int (-2 ^ 63)), .endOfText] := by
  obtain ⟨reads, decimals⟩ := next_numeral
  refine ⟨?_, decimals (-2 ^ 63) (by decide) (by decide)⟩
  obtain ⟨n, rest, proper, text, longest, _, after, _⟩ :=
    reads ⟨0, " 1.5e+x".toList⟩ [' '] [] ".5e+x".toList '1' rfl
      (List.forall_mem_cons.mpr ⟨rfl, nofun⟩) (.inl rfl) rfl
  have left : (Cursor.next ⟨0, " 1.5e+x".toList⟩).after.rest = "e+x".toList := rfl
  rw [after] at left
  exact ⟨n, proper, left ▸ text, longest⟩

end Cursor

end RunFilter
