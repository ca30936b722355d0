import RunFilter.Proofs.Parsing.Lexemes

/-!
# Segments of a text

The tokens of a text with the characters that they are written with and the blanks between them.

**The law** (`tokenize_segments`): a text that has tokens is blanks in front and then segments, one
for each token, with nothing left over. Each segment stands where the reading of its token starts,
and its characters alone are read as that token. Blanks matter only as ends: with any blanks between
the same characters, the text has the same tokens.

In the text itself tokens may touch, so there each reading depends on what follows
(`Segment.Written`). Where blanks stand between them it does not, because blanks separate
(`Segment.written_of_spaced`).
-/

set_option autoImplicit false

namespace RunFilter

/-- **A token as it is written**: its characters, and the blanks behind them. -/
structure Segment where
  token : Token
  lexeme : List Char
  gap : List Char

namespace Segment

/-- The characters of a segment. -/
def chars (s : Segment) : List Char := s.lexeme ++ s.gap

/-- The characters of segments. -/
def charsAll (ss : List Segment) : List Char := ss.flatMap chars

/-- The same token with other blanks behind it. -/
def respaced (s : Segment) (gap : List Char) : Segment := { s with gap }

@[simp] theorem charsAll_nil : charsAll [] = [] := rfl

@[simp] theorem charsAll_cons (s : Segment) (ss : List Segment) :
    charsAll (s :: ss) = s.lexeme ++ (s.gap ++ charsAll ss) := by
  simp [charsAll, chars]

/-- Blanks only. -/
def Blank (cs : List Char) : Prop := ∀ c ∈ cs, Text.isBlank c = true

/-- **A lexeme that is read as its token when it stands alone**, with blanks behind it. -/
structure Regular (s : Segment) : Prop where
  inside : s.token ≠ .endOfText
  starts : ∀ c ∈ s.lexeme.head?, Text.isBlank c = false
  alone : Lexeme.scan s.lexeme = ⟨.ok s.token, s.lexeme, []⟩
  gap : Blank s.gap

/-- **Segments that are read one after the other** where they stand. -/
inductive Written : List Segment → Prop
  | nil : Written []
  | cons {s : Segment} {ss : List Segment} (regular : s.Regular)
      (read : Lexeme.scan (s.lexeme ++ (s.gap ++ charsAll ss)) =
        ⟨.ok s.token, s.lexeme, s.gap ++ charsAll ss⟩)
      (more : Written ss) : Written (s :: ss)

variable {s : Segment} {ss : List Segment} {front : List Char}

theorem Regular.lexeme_ne_nil (h : s.Regular) : s.lexeme ≠ [] := by
  intro empty
  have alone := congrArg Lexeme.outcome h.alone
  rw [empty] at alone
  exact h.inside (Except.ok.inj alone).symm

/-- A segment stays regular with other blanks behind it. -/
theorem Regular.respaced (h : s.Regular) {gap : List Char} (blank : Blank gap) :
    (s.respaced gap).Regular :=
  ⟨h.inside, h.starts, h.alone, blank⟩

/-! ## Segments and tokens -/

/-- Blanks in front of a lexeme end where it begins. -/
theorem Regular.stop (h : s.Regular) (tail : List Char) :
    ∀ c ∈ (s.lexeme ++ tail).head?, Text.isBlank c = false := by
  intro c mem
  obtain ⟨b, bs, lexeme⟩ := List.exists_cons_of_ne_nil h.lexeme_ne_nil
  rw [lexeme] at mem
  exact h.starts c (by rw [lexeme]; exact mem)

/-- **Written segments have their tokens.** -/
theorem Written.reads (h : Written ss) (blank : Blank front) :
    Reads (front ++ charsAll ss) (ss.map Segment.token) := by
  induction h generalizing front with
  | nil =>
    apply Reads.finish
    rw [charsAll_nil, List.append_nil]
    exact List.dropWhile_eq_nil_iff.mpr blank
  | @cons s ss regular read more ih =>
    have skipped := dropWhile_append_stop blank (regular.stop (s.gap ++ charsAll ss))
    rw [charsAll_cons]
    apply Reads.token
    · rw [skipped, read]
    · exact regular.inside
    · rw [skipped, read]
      exact ih regular.gap

theorem blank_takeWhile (cs : List Char) : Blank (cs.takeWhile Text.isBlank) :=
  fun _ mem => List.mem_takeWhile_imp mem

/-- **The tokens of a text are those of written segments**, behind blanks. -/
theorem exists_written {cs : List Char} {ts : List Token} (h : Reads cs ts) :
    ∃ front ss, Blank front ∧ cs = front ++ charsAll ss ∧ Written ss ∧
      ss.map Segment.token = ts := by
  induction h with
  | @finish cs blank =>
    refine ⟨cs, [], ?_, (List.append_nil cs).symm, .nil, rfl⟩
    exact List.dropWhile_eq_nil_iff.mp blank
  | @token cs t ts token inside more ih =>
    obtain ⟨gap, ss, blank, rest, written, rfl⟩ := ih
    have front := (List.takeWhile_append_dropWhile (p := Text.isBlank) (l := cs)).symm
    have starts := List.head?_dropWhile_not Text.isBlank cs
    generalize cs.dropWhile Text.isBlank = text at token rest front starts
    have whole := Lexeme.taken_append_rest text
    have regular : Regular ⟨t, (Lexeme.scan text).taken, gap⟩ := by
      refine ⟨inside, ?_, Lexeme.scan_taken token, blank⟩
      intro c mem
      rw [Option.mem_def] at mem
      rw [← whole, List.head?_append, mem] at starts
      simpa using starts
    refine ⟨cs.takeWhile Text.isBlank, ⟨t, (Lexeme.scan text).taken, gap⟩ :: ss,
      blank_takeWhile cs, ?_, .cons regular ?_ written, rfl⟩
    · rw [charsAll_cons]
      dsimp only
      rw [← rest, whole]
      exact front
    · dsimp only
      rw [← rest, whole, ← token]

/-! ## Places -/

/-- One reading from blanks in front of a written segment. -/
theorem Regular.next (h : s.Regular) (blank : Blank front) (offset : Nat)
    (read : Lexeme.scan (s.lexeme ++ (s.gap ++ charsAll ss)) =
      ⟨.ok s.token, s.lexeme, s.gap ++ charsAll ss⟩) :
    Cursor.next ⟨offset, front ++ charsAll (s :: ss)⟩ =
      ⟨offset + Text.byteLength front, .ok s.token,
        ⟨offset + Text.byteLength front + Text.byteLength s.lexeme, s.gap ++ charsAll ss⟩⟩ := by
  have skipped : Cursor.skipBlanks ⟨offset, front ++ charsAll (s :: ss)⟩ =
      ⟨offset + Text.byteLength front, s.lexeme ++ (s.gap ++ charsAll ss)⟩ := by
    simp only [Cursor.skipBlanks, charsAll_cons, takeWhile_append_stop blank (h.stop _),
      dropWhile_append_stop blank (h.stop _)]
  simp only [Cursor.next, skipped, read, ok_mapError]

/-- **Each segment stands where its token is read.** -/
theorem Written.getElem?_readings {before after : List Segment}
    (h : Written (before ++ s :: after)) (blank : Blank front) (offset : Nat) :
    (Cursor.readings (before.length + 1)
        ⟨offset, front ++ charsAll (before ++ s :: after)⟩)[before.length]? =
      some ⟨offset + Text.byteLength (front ++ charsAll before), .ok s.token,
        ⟨offset + Text.byteLength (front ++ charsAll before ++ s.lexeme),
          s.gap ++ charsAll after⟩⟩ := by
  induction before generalizing front offset with
  | nil =>
    cases h with
    | cons regular read more =>
      rw [List.nil_append, Cursor.readings, regular.next blank offset read]
      simp [Nat.add_assoc]
  | cons first before ih =>
    rw [List.cons_append] at h ⊢
    cases h with
    | cons regular read more =>
      rw [Cursor.readings, regular.next blank offset read, List.length_cons,
        List.getElem?_cons_succ, ih more regular.gap]
      simp [Nat.add_assoc]

/-! ## Other blanks -/

/-- **A lexeme before a blank** or at the end of the text is read as its token. -/
theorem Regular.scan_before_blank (h : s.Regular) {tail : List Char}
    (stop : ∀ c ∈ tail.head?, Text.isBlank c = true) :
    Lexeme.scan (s.lexeme ++ tail) = ⟨.ok s.token, s.lexeme, tail⟩ := by
  cases tail with
  | nil =>
    rw [List.append_nil]
    exact h.alone
  | cons c cs =>
    have token : (Lexeme.scan s.lexeme).outcome = .ok s.token := by rw [h.alone]
    have sep := separates_of_isBlank (stop c rfl)
    obtain ⟨outcome, rest⟩ := Lexeme.before_scan sep token h.inside cs
    have whole := Lexeme.taken_append_rest (s.lexeme ++ c :: cs)
    rw [rest, h.alone, List.nil_append] at whole
    have taken := List.append_cancel_right whole
    rw [h.alone] at outcome rest
    cases found : Lexeme.scan (s.lexeme ++ c :: cs) with
    | mk outcome' taken' rest' =>
      rw [found] at outcome rest taken
      simp only at outcome rest taken
      rw [outcome, rest, taken, List.nil_append]

/-- **Lexemes with blanks between them are written segments**, whatever the blanks are. -/
theorem written_respaced {gaps : List (List Char)} (regular : ∀ s ∈ ss, s.Regular)
    (length : gaps.length = ss.length) (blank : ∀ gap ∈ gaps, Blank gap)
    (filled : ∀ gap ∈ gaps.dropLast, gap ≠ []) : Written (List.zipWith respaced ss gaps) := by
  induction ss generalizing gaps with
  | nil =>
    rw [List.zipWith_nil_left]
    exact .nil
  | cons s ss ih =>
    obtain ⟨gap, gaps, rfl⟩ := List.exists_cons_of_length_eq_add_one length
    obtain ⟨first, others⟩ := List.forall_mem_cons.mp regular
    obtain ⟨gapBlank, blank⟩ := List.forall_mem_cons.mp blank
    have length : gaps.length = ss.length := Nat.succ.inj length
    have spaced := first.respaced gapBlank
    rw [List.zipWith_cons_cons]
    cases gaps with
    | nil =>
      -- The last gap may be empty, and then the text ends.
      obtain rfl : ss = [] := List.length_eq_zero_iff.mp length.symm
      refine .cons spaced (spaced.scan_before_blank ?_) .nil
      intro c mem
      rw [List.zipWith_nil_left, charsAll_nil, List.append_nil] at mem
      exact gapBlank c (List.mem_of_mem_head? mem)
    | cons gap' gaps =>
      obtain ⟨gapFilled, filled⟩ := List.forall_mem_cons.mp filled
      refine .cons spaced (spaced.scan_before_blank ?_) (ih others length blank filled)
      intro c mem
      obtain ⟨b, bs, rfl⟩ := List.exists_cons_of_ne_nil gapFilled
      cases mem
      exact gapBlank c List.mem_cons_self

theorem map_token_respaced {gaps : List (List Char)} (length : gaps.length = ss.length) :
    (List.zipWith respaced ss gaps).map Segment.token = ss.map Segment.token := by
  induction ss generalizing gaps with
  | nil => rfl
  | cons s ss ih =>
    obtain ⟨gap, gaps, rfl⟩ := List.exists_cons_of_length_eq_add_one length
    rw [List.zipWith_cons_cons, List.map_cons, ih (Nat.succ.inj length)]
    rfl

theorem Written.regular (h : Written ss) : ∀ s ∈ ss, s.Regular := by
  induction h with
  | nil => exact fun _ mem => (nomatch mem)
  | cons regular read more ih => exact List.forall_mem_cons.mpr ⟨regular, ih⟩

/-- A regular segment is tokenized alone to its token. -/
theorem Regular.tokenize (h : s.Regular) :
    RunFilter.tokenize (String.ofList s.lexeme) = .ok [s.token, .endOfText] := by
  have written : Written [s.respaced []] :=
    .cons (h.respaced nofun) (h.scan_before_blank nofun) .nil
  have none : Blank [] := nofun
  have reads := written.reads none
  rw [charsAll_cons, charsAll_nil] at reads
  apply (@tokenize_eq_ok_iff_reads _ [s.token]).mpr
  rw [String.toList_ofList]
  simpa [Segment.respaced] using reads

end Segment

/-- **Tokenizing cuts a text into segments.** A text that has tokens is blanks in front and one
segment for each token. The segment stands where its token is read, its lexeme is not empty, begins
with no blank and is tokenized alone to its token, and behind it are blanks only. The same lexemes
with any other blanks between them have the same tokens. -/
theorem tokenize_segments (s : String) (tokens : List Token) (h : tokenize s = .ok tokens) :
    ∃ (front : List Char) (segments : List Segment),
      tokens = segments.map Segment.token ++ [.endOfText] ∧
      s.toList = front ++ Segment.charsAll segments ∧ Segment.Blank front ∧
      (∀ before segment after, segments = before ++ segment :: after →
        segment.lexeme ≠ [] ∧ (∀ c ∈ segment.lexeme.head?, Text.isBlank c = false) ∧
        Segment.Blank segment.gap ∧
        (Cursor.readings (before.length + 1) (Cursor.ofString s))[before.length]? =
          some ⟨Text.byteLength (front ++ Segment.charsAll before), .ok segment.token,
            ⟨Text.byteLength (front ++ Segment.charsAll before ++ segment.lexeme),
              segment.gap ++ Segment.charsAll after⟩⟩ ∧
        segment.token ≠ .endOfText ∧
        tokenize (String.ofList segment.lexeme) = .ok [segment.token, .endOfText]) ∧
      ∀ (front' : List Char) (gaps : List (List Char)), Segment.Blank front' →
        gaps.length = segments.length → (∀ gap ∈ gaps, Segment.Blank gap) →
        (∀ gap ∈ gaps.dropLast, gap ≠ []) →
        tokenize (String.ofList (front' ++
          Segment.charsAll (List.zipWith Segment.respaced segments gaps))) = .ok tokens := by
  obtain ⟨ts, ended, rfl⟩ : ∃ ts, tokenize s = .ok (ts ++ [.endOfText]) ∧
      ts ++ [.endOfText] = tokens := by
    unfold tokenize at h ⊢
    cases found : (TokenStream.ofString s).toList with
    | error e =>
      rw [found] at h
      cases h
    | ok ts =>
      rw [found] at h
      exact ⟨ts, rfl, Except.ok.inj h⟩
  obtain ⟨front, segments, blank, split, written, rfl⟩ :=
    Segment.exists_written (tokenize_eq_ok_iff_reads.mp ended)
  refine ⟨front, segments, rfl, split, blank, ?_, ?_⟩
  · rintro before segment after rfl
    have regular := written.regular segment (by simp)
    have reading := written.getElem?_readings blank 0
    rw [Nat.zero_add, Nat.zero_add, ← split] at reading
    exact ⟨regular.lexeme_ne_nil, regular.starts, regular.gap, reading, regular.inside,
      regular.tokenize⟩
  · intro front' gaps blank' length blanks filled
    have respaced := Segment.written_respaced written.regular length blanks filled
    apply tokenize_eq_ok_iff_reads.mpr
    rw [String.toList_ofList, ← Segment.map_token_respaced length]
    exact respaced.reads blank'

/-- Six tokens that touch stay what they are with an ideographic space behind each. -/
theorem tokenize_segments_touching :
    let tokens : List Token := [.name "run", .symbol .dot, .name "x", .symbol .lessEqual,
      .literal (.int (-15)), .literal (.text "a b"), .endOfText]
    tokenize "run.x<=-15'a b'" = .ok tokens ∧
      ∃ (front : List Char) (segments : List Segment),
        segments.length = 6 ∧ "run.x<=-15'a b'".toList = front ++ Segment.charsAll segments ∧
        tokenize (String.ofList (Segment.charsAll
          (List.zipWith Segment.respaced segments (List.replicate 6 ['\u3000'])))) =
            .ok tokens := by
  intro tokens
  have read : (tokenize "run.x<=-15'a b'").toOption = some tokens := by decide +kernel
  have read := toOption_eq_some.mp read
  obtain ⟨front, segments, tokens_eq, split, _, _, respaced⟩ := tokenize_segments _ tokens read
  have length : segments.length = 6 := by
    have := congrArg List.length tokens_eq
    rw [List.length_append, List.length_map] at this
    exact (Nat.succ.inj this).symm
  have blank : Segment.Blank ['\u3000'] := by
    intro c mem
    rw [List.mem_singleton.mp mem]
    rfl
  refine ⟨read, front, segments, length, split, respaced [] _ nofun ?_ ?_ ?_⟩
  · rw [List.length_replicate, length]
  · intro gap mem
    rw [List.eq_of_mem_replicate mem]
    exact blank
  · intro gap mem
    rw [List.eq_of_mem_replicate (List.dropLast_subset _ mem)]
    exact List.cons_ne_nil _ _

end RunFilter
