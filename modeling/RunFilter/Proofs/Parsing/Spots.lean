import RunFilter.Filter.Lookahead
import RunFilter.Proofs.Parsing.Lexemes

/-!
# Where tokens stand

`Reached s c` says that reading tokens from the beginning of `s` comes to the place `c`; the tokens
still to come are `c.stream`, whatever fuel they are read with. `TokenIn` and `MistakeIn` say which
characters of the text a token, or the first mistake, was read from.

The text falls apart at every place reached, into the characters passed and those ahead
(`Reached.split`), so places in bytes are places in the text. The mistake of a text lies behind all
its tokens, because a token takes a character (`Reached.mistake`).
-/

set_option autoImplicit false

namespace RunFilter

namespace Lexeme

variable {cs : List Char} {fault : Fault}

theorem eq_error_of_ofComparison {b : Char} {alone : Except Fault Symbol} {s : Symbol}
    (h : (ofComparison b alone (.ok s) cs).outcome = .error fault) : alone = .error fault := by
  unfold ofComparison at h
  split at h
  · cases h
  · cases alone with
    | ok s => cases h
    | error fault' =>
      cases h
      rfl

theorem kind_of_ofQuoted {q : Char} (h : (ofQuoted q cs).outcome = .error fault) :
    fault.kind = .tokenize := by
  unfold ofQuoted at h
  dsimp only at h
  split at h
  · cases h
    rfl
  · cases h

theorem kind_of_ofNumeral (h : (ofNumeral cs).outcome = .error fault) :
    fault.kind = .tokenize := by
  simp only [ofNumeral, Numeral.value] at h
  split at h
  · split at h
    · cases h
    · cases h
      rfl
  · cases h

/-- Characters that make no token are a mistake of their own category. -/
theorem kind_of_scan (h : (scan cs).outcome = .error fault) : fault.kind = .tokenize := by
  cases cs with
  | nil => cases h
  | cons b cs =>
    rcases scan_forms b with
      ⟨s, read⟩ | ⟨s, s', read⟩ | ⟨_, read⟩ | ⟨_, read⟩ | read | read <;> rw [read] at h
    · cases h
    · cases eq_error_of_ofComparison h
    · cases eq_error_of_ofComparison h
      rfl
    · cases eq_error_of_ofComparison h
      rfl
    · exact kind_of_ofQuoted h
    · split at h
      · exact kind_of_ofNumeral h
      · unfold ofLetter at h
        split at h
        · cases h
        · cases h
          rfl

/-- The word of a name is the name. -/
theorem eq_of_ofWord_name {word : List Char} {name : String} (h : ofWord word = .name name) :
    word = name.toList := by
  unfold ofWord at h
  split at h
  case h_11 =>
    cases h
    exact String.toList_ofList.symm
  all_goals cases h

/-- **A name is written as it is.** -/
theorem taken_of_name {name : String} (h : (scan cs).outcome = .ok (.name name)) :
    (scan cs).taken = name.toList := by
  cases cs with
  | nil => cases h
  | cons b cs =>
    obtain ⟨s, eq⟩ | ⟨value, eq⟩ | word := token_cases h
    · cases eq
    · cases eq
    · rw [word, ofLetter] at h ⊢
      split at h
      next letter =>
        rw [if_pos letter]
        exact eq_of_ofWord_name (Except.ok.inj h)
      next => cases h

end Lexeme

/-! ## Streams -/

namespace Text

theorem byteLength_pos {cs : List Char} (filled : cs ≠ []) : 0 < byteLength cs := by
  cases cs with
  | nil => exact absurd rfl filled
  | cons c cs => exact Nat.add_pos_left c.utf8Size_pos _

end Text

namespace Cursor

variable {c : Cursor} {t : Token} {e : SyntaxError}

theorem next_eq_ok : c.next.outcome = .ok t ↔
    (Lexeme.scan c.skipBlanks.rest).outcome = .ok t := by
  cases found : (Lexeme.scan c.skipBlanks.rest).outcome <;> simp [next, found, Except.mapError]

theorem next_eq_error : c.next.outcome = .error e ↔ ∃ fault,
    (Lexeme.scan c.skipBlanks.rest).outcome = .error fault ∧ fault.at c.next.start = e := by
  cases found : (Lexeme.scan c.skipBlanks.rest).outcome <;> simp [next, found, Except.mapError]

/-- Behind a token fewer characters are left, and more bytes are passed. -/
theorem next_shorter (read : c.next.outcome = .ok t) (inside : t ≠ .endOfText) :
    c.next.after.rest.length < c.rest.length ∧ c.next.start < c.next.after.offset := by
  have shorter : c.next.after.rest.length < c.skipBlanks.rest.length :=
    Lexeme.length_scan_lt (next_eq_ok.mp read) inside
  have dropped : c.skipBlanks.rest.length ≤ c.rest.length := length_dropWhile_le c.rest
  have filled : (Lexeme.scan c.skipBlanks.rest).taken ≠ [] := by
    intro none
    have whole := congrArg List.length (Lexeme.taken_append_rest c.skipBlanks.rest)
    rw [none, List.nil_append] at whole
    exact absurd shorter (Nat.lt_irrefl _ ∘ whole.symm.trans_lt)
  have bytes := Text.byteLength_pos filled
  exact ⟨by omega, Nat.lt_add_of_pos_right bytes⟩

theorem start_le_next (c : Cursor) : c.offset ≤ c.next.start := Nat.le_add_right _ _

/-- **The tokens that follow a place.** -/
def stream (c : Cursor) : TokenStream := .scanFrom c.rest.length c

/-- Fuel for the characters is fuel enough. -/
theorem scanFrom_congr {fuel fuel' : Nat} {c : Cursor} (enough : c.rest.length ≤ fuel)
    (enough' : c.rest.length ≤ fuel') :
    TokenStream.scanFrom fuel c = TokenStream.scanFrom fuel' c := by
  cases read : c.next.outcome with
  | error e =>
    rw [TokenStream.scanFrom_of_error read, TokenStream.scanFrom_of_error read]
  | ok t =>
    by_cases inside : t = .endOfText
    · subst inside
      rw [TokenStream.scanFrom_of_end read, TokenStream.scanFrom_of_end read]
    · have shorter := (next_shorter read inside).1
      obtain ⟨fuel, rfl⟩ := Nat.exists_eq_add_of_le' (show 1 ≤ fuel by omega)
      obtain ⟨fuel', rfl⟩ := Nat.exists_eq_add_of_le' (show 1 ≤ fuel' by omega)
      rw [TokenStream.scanFrom_of_token read inside, TokenStream.scanFrom_of_token read inside,
        scanFrom_congr (show c.next.after.rest.length ≤ fuel by omega)
          (show c.next.after.rest.length ≤ fuel' by omega)]

theorem stream_of_error (read : c.next.outcome = .error e) : c.stream = .broken e :=
  TokenStream.scanFrom_of_error read

theorem stream_of_end (read : c.next.outcome = .ok .endOfText) :
    c.stream = .finish c.next.start :=
  TokenStream.scanFrom_of_end read

theorem stream_of_token (read : c.next.outcome = .ok t) (inside : t ≠ .endOfText) :
    c.stream = .cons t c.next.start c.next.after.stream := by
  have shorter := (next_shorter read inside).1
  obtain ⟨fuel, length⟩ := Nat.exists_eq_add_of_le' (show 1 ≤ c.rest.length by omega)
  rw [stream, length, TokenStream.scanFrom_of_token read inside, stream,
    scanFrom_congr (by omega) (Nat.le_refl _)]

/-- **The mistake that a stream ends with** is one of characters. It is the one in view, or stands
behind the token in view. -/
theorem mistake_of_stream {c : Cursor} {e : SyntaxError} (failed : c.stream.toList = .error e) :
    e.kind = .tokenize ∧ (c.next.outcome = .error e ∨ c.next.start < e.offset) := by
  cases read : c.next.outcome with
  | error e' =>
    rw [stream_of_error read] at failed
    obtain rfl := Except.error.inj failed
    obtain ⟨fault, scanned, rfl⟩ := next_eq_error.mp read
    exact ⟨Lexeme.kind_of_scan scanned, .inl rfl⟩
  | ok t =>
    by_cases inside : t = .endOfText
    · subst inside
      rw [stream_of_end read] at failed
      cases failed
    · have shorter := next_shorter read inside
      -- The token in view does not end the stream, so its mistake is that of the rest.
      have later : c.next.after.stream.toList = .error e := by
        rw [stream_of_token read inside, TokenStream.toList] at failed
        cases more : c.next.after.stream.toList with
        | error e' =>
          rw [more] at failed
          exact failed
        | ok ts =>
          rw [more] at failed
          cases failed
      obtain ⟨kind, place⟩ := mistake_of_stream later
      have behind := c.next.after.start_le_next
      refine ⟨kind, .inr ?_⟩
      rcases place with found | further
      · obtain ⟨fault, _, rfl⟩ := next_eq_error.mp found
        exact shorter.2.trans_le behind
      · omega
termination_by c.rest.length
decreasing_by exact shorter.1

end Cursor

/-! ## Places reached -/

/-- **The places that reading a text comes to**: its beginning, and the place behind each token. -/
inductive Reached (s : String) : Cursor → Prop
  | start : Reached s (.ofString s)
  | token {c : Cursor} {t : Token} (h : Reached s c) (read : c.next.outcome = .ok t)
      (inside : t ≠ .endOfText) : Reached s c.next.after

/-- **The characters of a token**: those before it, its own and those behind it. -/
structure TokenIn (s : String) (t : Token) (before lexeme after : List Char) : Prop where
  split : s.toList = before ++ (lexeme ++ after)
  read : ∃ c, Reached s c ∧ c.next = ⟨Text.byteLength before, .ok t,
    ⟨Text.byteLength (before ++ lexeme), after⟩⟩

/-- **The characters of a mistake**: those before it, and those from it on. -/
structure MistakeIn (s : String) (e : SyntaxError) (before after : List Char) : Prop where
  split : s.toList = before ++ after
  place : Text.byteLength before = e.offset
  read : ∃ c, Reached s c ∧ c.next.outcome = .error e

namespace Reached

variable {s : String} {c : Cursor} {t : Token} {e : SyntaxError}

/-- What is left of the text behind the blanks at a place. -/
theorem split_skipBlanks {before : List Char} (split : s.toList = before ++ c.rest)
    (place : Text.byteLength before = c.offset) : ∃ front, s.toList = front ++ c.skipBlanks.rest ∧
      Text.byteLength front = c.next.start := by
  refine ⟨before ++ c.rest.takeWhile Text.isBlank, ?_, ?_⟩
  · rw [split, List.append_assoc, Cursor.skipBlanks, List.takeWhile_append_dropWhile]
  · rw [Text.byteLength_append, place]
    rfl

/-- **The text falls apart at every place reached.** -/
theorem split (h : Reached s c) :
    ∃ before, s.toList = before ++ c.rest ∧ Text.byteLength before = c.offset := by
  induction h with
  | start => exact ⟨[], rfl, rfl⟩
  | @token c t _ read _ ih =>
    obtain ⟨before, split, place⟩ := ih
    obtain ⟨front, split, place⟩ := split_skipBlanks split place
    refine ⟨front ++ (Lexeme.scan c.skipBlanks.rest).taken, ?_, ?_⟩
    · rw [List.append_assoc, split]
      exact congrArg _ (Lexeme.taken_append_rest _).symm
    · rw [Text.byteLength_append, place]
      rfl

/-- **The token at a place reached is one of the text**, written with the characters passed. -/
theorem tokenIn (h : Reached s c) (read : c.next.outcome = .ok t) :
    ∃ before, TokenIn s t before (Lexeme.scan c.skipBlanks.rest).taken
      (Lexeme.scan c.skipBlanks.rest).rest ∧ Text.byteLength before = c.next.start := by
  obtain ⟨_, split, place⟩ := h.split
  obtain ⟨before, split, place⟩ := split_skipBlanks split place
  refine ⟨before, ⟨?_, c, h, ?_⟩, place⟩
  · rw [Lexeme.taken_append_rest, split]
  · rw [Text.byteLength_append, place, ← read]
    rfl

theorem mistakeIn (h : Reached s c) (read : c.next.outcome = .error e) :
    ∃ before after, MistakeIn s e before after := by
  obtain ⟨_, split, place⟩ := h.split
  obtain ⟨before, split, place⟩ := split_skipBlanks split place
  obtain ⟨fault, _, rfl⟩ := Cursor.next_eq_error.mp read
  exact ⟨before, _, split, place, c, h, read⟩

/-- **The mistake of a text is met behind every place reached.** -/
theorem tokenize_eq_error_iff (h : Reached s c) :
    tokenize s = .error e ↔ c.stream.toList = .error e := by
  induction h with
  | start =>
    change tokenize s = .error e ↔ (TokenStream.ofString s).toList = .error e
    unfold tokenize
    cases (TokenStream.ofString s).toList <;> simp
  | @token c t _ read inside ih =>
    rw [ih, Cursor.stream_of_token read inside, TokenStream.toList]
    cases c.next.after.stream.toList <;> simp

end Reached

namespace TokenIn

variable {s : String} {t : Token} {e : SyntaxError} {before lexeme after : List Char}

/-- **The mistake of a text lies behind its tokens.** -/
theorem lt_mistake (h : TokenIn s t before lexeme after) (failed : tokenize s = .error e) :
    e.kind = .tokenize ∧ Text.byteLength before < e.offset := by
  obtain ⟨c, reached, read⟩ := h.read
  obtain ⟨kind, found | behind⟩ :=
    Cursor.mistake_of_stream (reached.tokenize_eq_error_iff.mp failed)
  · rw [read] at found
    cases found
  · rw [read] at behind
    exact ⟨kind, behind⟩

/-- The end of the text is where no characters are left. -/
theorem ended (h : TokenIn s .endOfText before lexeme after) : lexeme = [] ∧ after = [] := by
  obtain ⟨c, reached, read⟩ := h.read
  have outcome := congrArg Scan.outcome read
  have none := Lexeme.eq_nil_of_endOfText (Cursor.next_eq_ok.mp outcome)
  have rest : c.next.after = ⟨c.next.start, []⟩ := by
    simp [Cursor.next, none, Lexeme.scan]
  rw [read] at rest
  obtain ⟨bytes, ended⟩ := Cursor.mk.inj rest
  refine ⟨?_, ended⟩
  by_contra filled
  have := Text.byteLength_pos filled
  simp only [Text.byteLength_append] at bytes
  omega

end TokenIn

/-! ## Tokens in view -/

namespace Cursor

variable {c : Cursor} {e : SyntaxError} {la : Lookahead}

theorem view_eq_error : c.stream.view = .error e ↔ c.next.outcome = .error e := by
  cases read : c.next.outcome with
  | error e' =>
    rw [stream_of_error read]
    simp [TokenStream.view]
  | ok t =>
    by_cases inside : t = .endOfText
    · subst inside
      rw [stream_of_end read]
      exact ⟨nofun, nofun⟩
    · rw [stream_of_token read inside]
      exact ⟨nofun, nofun⟩

/-- **What is in view at a place.** At the end of the text the view does not change any more. -/
theorem view_eq_ok (h : c.stream.view = .ok la) :
    c.next.outcome = .ok la.token ∧ la.offset = c.next.start ∧
      (la.token ≠ .endOfText → la.advance = c.next.after.stream.view) ∧
      (la.token = .endOfText → la.advance = .ok la) := by
  cases read : c.next.outcome with
  | error e =>
    rw [stream_of_error read] at h
    cases h
  | ok t =>
    by_cases inside : t = .endOfText
    · subst inside
      rw [stream_of_end read] at h
      cases h
      exact ⟨rfl, rfl, fun inside => absurd rfl inside, fun _ => rfl⟩
    · rw [stream_of_token read inside] at h
      cases h
      exact ⟨rfl, rfl, fun _ => rfl, fun ended => absurd ended inside⟩

end Cursor

namespace Lookahead

variable {s : String} {la next : Lookahead} {e : SyntaxError}

/-- **A view into a text**: the token in view and those behind it follow a place reached. -/
def In (s : String) (la : Lookahead) : Prop := ∃ c, Reached s c ∧ c.stream.view = .ok la

theorem In.of_view (h : (TokenStream.ofString s).view = .ok la) : la.In s := ⟨_, .start, h⟩

theorem In.advance (h : la.In s) (passed : la.advance = .ok next) : next.In s := by
  obtain ⟨c, reached, view⟩ := h
  obtain ⟨read, _, later, ended⟩ := Cursor.view_eq_ok view
  by_cases inside : la.token = .endOfText
  · rw [ended inside] at passed
    cases passed
    exact ⟨c, reached, view⟩
  · rw [later inside] at passed
    exact ⟨_, .token reached read inside, passed⟩

/-- Reading on fails at the mistake of the text only. -/
theorem In.advance_error (h : la.In s) (failed : la.advance = .error e) :
    ∃ c, Reached s c ∧ c.next.outcome = .error e := by
  obtain ⟨c, reached, view⟩ := h
  obtain ⟨read, _, later, ended⟩ := Cursor.view_eq_ok view
  by_cases inside : la.token = .endOfText
  · rw [ended inside] at failed
    cases failed
  · rw [later inside] at failed
    exact ⟨_, .token reached read inside, Cursor.view_eq_error.mp failed⟩

/-- **The token in view is a token of the text**, and its place the number of bytes before it. -/
theorem In.tokenIn (h : la.In s) : ∃ before lexeme after,
    TokenIn s la.token before lexeme after ∧ Text.byteLength before = la.offset := by
  obtain ⟨c, reached, view⟩ := h
  obtain ⟨read, place, _⟩ := Cursor.view_eq_ok view
  obtain ⟨before, found, bytes⟩ := reached.tokenIn read
  exact ⟨before, _, _, found, bytes.trans place.symm⟩

/-- A name in view stands in the text as it is. -/
theorem In.nameIn {name : String} (h : la.In s) (token : la.token = .name name) :
    ∃ before after, TokenIn s (.name name) before name.toList after ∧
      Text.byteLength before = la.offset := by
  obtain ⟨c, reached, view⟩ := h
  obtain ⟨read, place, _⟩ := Cursor.view_eq_ok view
  rw [token] at read
  obtain ⟨before, found, bytes⟩ := reached.tokenIn read
  rw [Lexeme.taken_of_name (Cursor.next_eq_ok.mp read)] at found
  exact ⟨before, _, found, bytes.trans place.symm⟩

end Lookahead

end RunFilter
