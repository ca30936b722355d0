import RunFilter.Proofs.Parsing.Spots

/-!
# Reading past mistakes

A reader of tokens may go on after a mistake. What happens then depends on the mistake: a text that
does not end is skipped to the end, a numeral out of range is skipped as one, and a character that
begins no token stays where it is. No call ever steps back, none stops inside a character, and none
runs forever.

**One call** (`Cursor.next_cases`) passes a character that is no blank, or it halts: at the end of
the text, or before the character that it rejects. A call that halts passes nothing but blanks, so
the next call finds what it found (`Cursor.call_add_of_stays`).

**All calls** (`Cursor.calls_settle`): as each call that does not halt passes a character, the calls
halt after no more calls than there are characters. Tokenizing a text is the calls up to the first
that gives no token.
-/

set_option autoImplicit false

namespace RunFilter

/-- **The mistakes that leave a character where it stands**, each with its character. -/
inductive Fault.Rejects : Fault → Char → Prop
  | strayEquals : Rejects .strayEquals '='
  | strayBang : Rejects .strayBang '!'
  | unexpected (c : Char) : Rejects (.unexpectedCharacter c) c

/-- **A reading that halts**: the text ends, or the next character is rejected where it stands. -/
inductive Scan.Halted : Scan → Prop
  | ended (start : Nat) : Halted ⟨start, .ok .endOfText, ⟨start, []⟩⟩
  | rejected (start : Nat) {fault : Fault} {c : Char} (rejects : fault.Rejects c)
      (rest : List Char) : Halted ⟨start, .error (fault.at start), ⟨start, c :: rest⟩⟩

/-! ## What takes no character -/

namespace Lexeme

variable {cs : List Char}

/-- A symbol that `=` may follow takes itself, unless it is none alone. -/
theorem ofComparison_of_taken_nil {b : Char} {alone paired : Except Fault Symbol}
    (none : (ofComparison b alone paired cs).taken = []) :
    ∃ fault, alone = .error fault ∧
      ofComparison b alone paired cs = ⟨.error fault, [], b :: cs⟩ := by
  unfold ofComparison at none ⊢
  split at none
  · cases none
  next =>
    cases alone with
    | ok s => cases none
    | error fault => exact ⟨fault, rfl, rfl⟩

/-- The quote is taken, whether the text ends or not. -/
theorem ofQuoted_taken_ne_nil (q : Char) (cs : List Char) : (ofQuoted q cs).taken ≠ [] := by
  unfold ofQuoted
  dsimp only
  split <;> exact List.cons_ne_nil _ _

/-- **A character that is not taken is rejected**, and stays. -/
theorem scan_of_taken_nil {b : Char} (none : (scan (b :: cs)).taken = []) :
    ∃ fault : Fault, fault.Rejects b ∧ scan (b :: cs) = ⟨.error fault, [], b :: cs⟩ := by
  rcases scan_forms b with ⟨s, read⟩ | ⟨s, s', read⟩ | ⟨rfl, read⟩ | ⟨rfl, read⟩ | read | read
  · rw [read] at none
    cases none
  · rw [read] at none
    obtain ⟨fault, eq, _⟩ := ofComparison_of_taken_nil none
    cases eq
  · rw [read] at none ⊢
    obtain ⟨fault, eq, rejected⟩ := ofComparison_of_taken_nil none
    cases eq
    exact ⟨_, .strayEquals, rejected⟩
  · rw [read] at none ⊢
    obtain ⟨fault, eq, rejected⟩ := ofComparison_of_taken_nil none
    cases eq
    exact ⟨_, .strayBang, rejected⟩
  · rw [read] at none
    exact absurd none (ofQuoted_taken_ne_nil b cs)
  · rw [read] at none ⊢
    by_cases starts : startsNumeral (b :: cs) = true
    · have begins := Numeral.startsNumeral_chars starts
      have chars : (Numeral.scan (b :: cs)).1.chars = [] := by
        rwa [if_pos starts] at none
      rw [chars] at begins
      cases begins
    · rw [if_neg starts, ofLetter] at none ⊢
      by_cases letter : Text.isNameStart b = true
      · rw [if_pos letter] at none
        cases none
      · rw [if_neg letter]
        exact ⟨_, .unexpected b, rfl⟩

end Lexeme

/-! ## One call -/

namespace Cursor

/-- No blank follows skipped blanks. -/
theorem noBlank_skipBlanks (c : Cursor) :
    ∀ b ∈ c.skipBlanks.rest.head?, Text.isBlank b = false := by
  intro b mem
  have stop := List.head?_dropWhile_not Text.isBlank c.rest
  have head : (c.rest.dropWhile Text.isBlank).head? = some b := mem
  rwa [head] at stop

/-- Blanks are skipped once. -/
theorem skipBlanks_skipBlanks (c : Cursor) : c.skipBlanks.skipBlanks = c.skipBlanks := by
  have taken : c.skipBlanks.rest.takeWhile Text.isBlank = [] :=
    @takeWhile_append_stop _ [] _ nofun c.noBlank_skipBlanks
  have dropped : c.skipBlanks.rest.dropWhile Text.isBlank = c.skipBlanks.rest :=
    @dropWhile_append_stop _ [] _ nofun c.noBlank_skipBlanks
  rw [skipBlanks, taken, dropped]
  rfl

/-- Blanks in front do not change what is read. -/
theorem next_skipBlanks (c : Cursor) : c.skipBlanks.next = c.next := by
  rw [next, skipBlanks_skipBlanks]
  rfl

/-- The characters that a call passes: blanks, and what it takes. -/
def passed (c : Cursor) : List Char :=
  c.rest.takeWhile Text.isBlank ++ (Lexeme.scan c.skipBlanks.rest).taken

/-- A call stops at a later place of the same text. -/
theorem passed_append_rest (c : Cursor) : c.passed ++ c.next.after.rest = c.rest := by
  have taken : (Lexeme.scan c.skipBlanks.rest).taken ++ c.next.after.rest =
      c.rest.dropWhile Text.isBlank := Lexeme.taken_append_rest c.skipBlanks.rest
  rw [passed, List.append_assoc, taken, List.takeWhile_append_dropWhile]

theorem offset_after (c : Cursor) :
    c.next.after.offset = c.offset + Text.byteLength c.passed := by
  rw [passed, Text.byteLength_append]
  exact Nat.add_assoc ..

/-- **What one call does.** It passes a character that is no blank, or it halts having passed
nothing but blanks. -/
theorem next_cases (c : Cursor) :
    (∃ b ∈ c.passed, Text.isBlank b = false) ∨ c.next.Halted ∧ c.next.after = c.skipBlanks := by
  have whole := Lexeme.taken_append_rest c.skipBlanks.rest
  cases taken : (Lexeme.scan c.skipBlanks.rest).taken with
  | cons b more =>
    -- What is taken begins where the blanks end.
    refine .inl ⟨b, ?_, ?_⟩
    · rw [passed, taken]
      exact List.mem_append_right _ List.mem_cons_self
    · rw [taken] at whole
      exact c.noBlank_skipBlanks b (whole ▸ rfl)
  | nil =>
    rw [taken, List.nil_append] at whole
    have stays : c.next.after = c.skipBlanks := by
      rw [next]
      simp only [taken, whole, Text.byteLength_nil, Nat.add_zero]
    refine .inr ⟨?_, stays⟩
    cases text : c.skipBlanks.rest with
    | nil =>
      have halted : c.next = ⟨c.skipBlanks.offset, .ok .endOfText, ⟨c.skipBlanks.offset, []⟩⟩ := by
        simp [next, text, Lexeme.scan, Except.mapError]
      exact halted ▸ .ended _
    | cons b rest =>
      rw [text] at taken
      obtain ⟨fault, rejects, read⟩ := Lexeme.scan_of_taken_nil taken
      have halted : c.next = ⟨c.skipBlanks.offset, .error (fault.at c.skipBlanks.offset),
          ⟨c.skipBlanks.offset, b :: rest⟩⟩ := by
        simp [next, text, read, Except.mapError]
      exact halted ▸ .rejected _ rejects rest

/-- What has halted halts again with the same answer. -/
theorem next_after_of_stays {c : Cursor} (stays : c.next.after = c.skipBlanks) :
    c.next.after.next = c.next := by
  rw [stays, next_skipBlanks]

/-- A call that does not halt leaves fewer characters. -/
theorem length_after_lt {c : Cursor} (passes : ∃ b ∈ c.passed, Text.isBlank b = false) :
    c.next.after.rest.length < c.rest.length := by
  obtain ⟨b, mem, _⟩ := passes
  have filled : 0 < c.passed.length := List.length_pos_of_mem mem
  have whole := congrArg List.length c.passed_append_rest
  rw [List.length_append] at whole
  omega

end Cursor

/-! ## All calls -/

namespace Cursor

/-- The place behind the first `k` calls. -/
def behind (c : Cursor) : Nat → Cursor
  | 0 => c
  | k + 1 => (c.behind k).next.after

/-- **The answer to a call**, counted from zero on. Whatever the calls before it answered, it is
made from where they stopped. -/
def call (c : Cursor) (k : Nat) : Scan := (c.behind k).next

variable (c : Cursor)

theorem behind_succ (k : Nat) : c.behind (k + 1) = c.next.after.behind k := by
  induction k with
  | zero => rfl
  | succ k ih => rw [behind, ih, behind]

theorem call_succ (k : Nat) : c.call (k + 1) = c.next.after.call k := by
  rw [call, behind_succ, call]

theorem readings_eq (n : Nat) : c.readings n = (List.range n).map c.call := by
  induction n generalizing c with
  | zero => rfl
  | succ n ih =>
    rw [readings, ih, List.range_succ_eq_map, List.map_cons, List.map_map]
    exact congrArg _ (List.map_congr_left fun k _ => (c.call_succ k).symm)

/-- **After a halt the answers are constant.** -/
theorem call_add_of_stays {i : Nat} (stays : (c.call i).after = (c.behind i).skipBlanks) (j : Nat) :
    c.call (i + j) = c.call i := by
  induction j with
  | zero => rfl
  | succ j ih =>
    have again : c.call (i + (j + 1)) = (c.call (i + j)).after.next := rfl
    rw [again, ih]
    exact next_after_of_stays stays

/-- **Calls halt** after no more of them than there are characters. -/
theorem exists_halted (c : Cursor) :
    ∃ k ≤ c.rest.length, (c.call k).after = (c.behind k).skipBlanks := by
  -- The induction is on the characters left: a call that does not halt leaves fewer.
  rcases c.next_cases with passes | ⟨_, stays⟩
  · have shorter := length_after_lt passes
    obtain ⟨k, le, stays⟩ := exists_halted c.next.after
    refine ⟨k + 1, by omega, ?_⟩
    rwa [call_succ, behind_succ]
  · exact ⟨0, Nat.zero_le _, stays⟩
termination_by c.rest.length

/-- The text falls apart behind any calls. -/
theorem split_behind (s : String) (k : Nat) :
    ∃ before, s.toList = before ++ ((ofString s).behind k).rest ∧
      Text.byteLength before = ((ofString s).behind k).offset := by
  induction k with
  | zero => exact ⟨[], rfl, rfl⟩
  | succ k ih =>
    obtain ⟨before, split, place⟩ := ih
    refine ⟨before ++ ((ofString s).behind k).passed, ?_, ?_⟩
    · rw [List.append_assoc, behind, passed_append_rest, split]
    · rw [Text.byteLength_append, place, behind, offset_after]

/-- **The tokens of a text are the answers to calls**, up to the first that gives no token. -/
theorem exists_mapM_outcome (c : Cursor) :
    ∃ k ≤ c.rest.length,
      (∀ i < k, ∃ t, (c.call i).outcome = .ok t ∧ t ≠ .endOfText) ∧
      (∀ t, (c.call k).outcome = .ok t → t = .endOfText) ∧
      (· ++ [.endOfText]) <$> c.stream.toList = (c.readings (k + 1)).mapM (·.outcome) := by
  cases read : c.next.outcome with
  | error e =>
    have first : (c.call 0).outcome = .error e := read
    refine ⟨0, Nat.zero_le _, nofun, ?_, ?_⟩
    · intro t token
      rw [first] at token
      cases token
    · rw [stream_of_error read, readings, readings, List.mapM_cons, read]
      rfl
  | ok t =>
    have first : (c.call 0).outcome = .ok t := read
    by_cases ended : t = .endOfText
    · subst ended
      refine ⟨0, Nat.zero_le _, nofun, ?_, ?_⟩
      · intro t token
        rw [first] at token
        exact (Except.ok.inj token).symm
      · rw [stream_of_end read, readings, readings, List.mapM_cons, read]
        rfl
    · have shorter := (next_shorter read ended).1
      obtain ⟨k, le, tokens, last, same⟩ := exists_mapM_outcome c.next.after
      refine ⟨k + 1, by omega, ?_, ?_, ?_⟩
      · intro i lt
        cases i with
        | zero => exact ⟨t, first, ended⟩
        | succ i =>
          rw [call_succ]
          exact tokens i (Nat.lt_of_succ_lt_succ lt)
      · rwa [call_succ]
      · rw [stream_of_token read ended, TokenStream.toList, readings, List.mapM_cons, read, ← same]
        cases c.next.after.stream.toList <;> rfl
termination_by c.rest.length

end Cursor

/-! ## Places -/

namespace Text

theorem utf8ByteSize_ofList (cs : List Char) : (String.ofList cs).utf8ByteSize = byteLength cs := by
  induction cs with
  | nil => rfl
  | cons c cs ih =>
    have split : String.ofList (c :: cs) = String.singleton c ++ String.ofList cs := by
      rw [← String.toList_inj]
      simp
    rw [split, String.utf8ByteSize_append, String.utf8ByteSize_singleton, ih, byteLength_cons]

/-- **A place behind whole characters** is a place of the text. -/
theorem isValid_of_split {s : String} {before after : List Char}
    (split : s.toList = before ++ after) : String.Pos.Raw.IsValid s ⟨byteLength before⟩ := by
  apply String.Pos.Raw.isValid_iff_exists_append.mpr
  refine ⟨String.ofList before, String.ofList after, ?_, ?_⟩
  · rw [← String.ofList_append, ← split, String.ofList_toList]
  · rw [← utf8ByteSize_ofList]
    rfl

end Text

namespace Cursor

/-- **Calls from the beginning of a text**: the places that they start at do not decrease, and are
places of the text between characters. They pass characters or halt behind the blanks, and what has
halted answers as before for good. So the answers are constant after no more calls than there are
characters, and the text is tokenized by as many, up to the first that gives no token. -/
theorem calls_settle (s : String) :
    (∀ n, (ofString s).readings n = (List.range n).map (ofString s).call) ∧
    (∀ i, ((ofString s).call i).start ≤ ((ofString s).call (i + 1)).start ∧
      ((ofString s).call i).start ≤ s.utf8ByteSize ∧
      String.Pos.Raw.IsValid s ⟨((ofString s).call i).start⟩) ∧
    (∀ i, (∃ passed, ((ofString s).behind i).rest = passed ++ ((ofString s).call i).after.rest ∧
        ∃ b ∈ passed, Text.isBlank b = false) ∨
      ((ofString s).call i).Halted ∧
        ((ofString s).call i).after = ((ofString s).behind i).skipBlanks ∧
        ∀ j, (ofString s).call (i + j) = (ofString s).call i) ∧
    (∃ k ≤ s.length, ∀ j, (ofString s).call (k + j) = (ofString s).call k) ∧
    ∃ k ≤ s.length,
      (∀ i < k, ∃ t, ((ofString s).call i).outcome = .ok t ∧ t ≠ .endOfText) ∧
      (∀ t, ((ofString s).call k).outcome = .ok t → t = .endOfText) ∧
      tokenize s = ((ofString s).readings (k + 1)).mapM (·.outcome) := by
  have length : (ofString s).rest.length = s.length := String.length_toList
  refine ⟨readings_eq _, fun i => ?_, fun i => ?_, ?_, ?_⟩
  · obtain ⟨_, split, place⟩ := split_behind s i
    obtain ⟨front, split, place⟩ := Reached.split_skipBlanks split place
    have valid : String.Pos.Raw.IsValid s ⟨((ofString s).call i).start⟩ :=
      place ▸ Text.isValid_of_split split
    refine ⟨?_, valid.le_utf8ByteSize, valid⟩
    have behind : ((ofString s).call i).start ≤ ((ofString s).call i).after.offset :=
      Nat.le_add_right _ _
    exact behind.trans (start_le_next _)
  · rcases ((ofString s).behind i).next_cases with passes | ⟨halted, stays⟩
    · exact .inl ⟨_, (passed_append_rest _).symm, passes⟩
    · exact .inr ⟨halted, stays, call_add_of_stays _ stays⟩
  · obtain ⟨k, le, stays⟩ := (ofString s).exists_halted
    exact ⟨k, length ▸ le, call_add_of_stays _ stays⟩
  · obtain ⟨k, le, tokens, last, same⟩ := (ofString s).exists_mapM_outcome
    exact ⟨k, length ▸ le, tokens, last, same⟩

/-- A numeral out of range is skipped; a stray sign is met again and again. -/
example : ((ofString "99999999999999999999 = 1").readings 4).map (·.start) = [0, 21, 21, 21] :=
  rfl

end Cursor

end RunFilter
