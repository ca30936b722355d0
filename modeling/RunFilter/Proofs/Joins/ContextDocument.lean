import RunFilter.Json

/-!
# The document of a context, as a part of a signature

The signature of a metric join ends in the name of the metric, a colon and the document of the
context. Names hold any characters, colons and braces among them, so it has to be proved that name
and document can be told apart (`named_document_inj`): a document never ends in a colon followed by
another document, and documents of different dictionaries differ.

Both halves read the text from left to right. `scan` tells the characters outside of quotes and
whether a quote is left open; it hides the character behind a backslash in either state, so that
the states of two scans that begin differently stay different to the end (`scan_not`).
-/

set_option autoImplicit false

namespace RunFilter.Json

/-! ## Quoted texts -/

/-- The characters of a quoted text. -/
def quoteChars (cs : List Char) : List Char := '"' :: cs.flatMap escapeChar ++ ['"']

theorem toList_quote (s : String) : (quote s).toList = quoteChars s.toList := by
  simp only [quote, quoteChars, String.toList_ofList]

/-- The characters that are escaped. -/
def escaped : List Char := '"' :: '\\' :: (List.range 0x20).map Char.ofNat

theorem escapeChar_of_mem :
    ∀ c ∈ escaped, ∃ d ds, escapeChar c = '\\' :: d :: ds ∧ ∀ e ∈ ds, e ≠ '"' ∧ e ≠ '\\' := by
  have table : (escaped.all fun c =>
      (escapeChar c).head? = some '\\' && 2 ≤ (escapeChar c).length &&
        ((escapeChar c).drop 2).all fun e => e ≠ '"' && e ≠ '\\') = true := by decide +kernel
  intro c mem
  have entry := List.all_eq_true.mp table c mem
  simp only [Bool.and_eq_true, decide_eq_true_eq, List.all_eq_true] at entry
  obtain ⟨⟨first, long⟩, plain⟩ := entry
  match h : escapeChar c with
  | [] => rw [h] at long; cases long
  | [_] => rw [h] at long; exact absurd long (Nat.not_succ_le_self 1)
  | b :: d :: ds =>
    rw [h] at first plain
    obtain rfl := Option.some.inj first
    exact ⟨d, ds, rfl, plain⟩

/-- No escaped form of a character is the beginning of another. -/
theorem escapeChar_prefix_free :
    ∀ c ∈ escaped, ∀ d ∈ escaped, escapeChar c <+: escapeChar d → c = d := by
  have table : (escaped.all fun c => escaped.all fun d =>
      !(escapeChar c).isPrefixOf (escapeChar d) || c = d) = true := by decide +kernel
  intro c hc d hd p
  have entry := List.all_eq_true.mp (List.all_eq_true.mp table c hc) d hd
  rw [List.isPrefixOf_iff_prefix.mpr p, Bool.not_true, Bool.false_or] at entry
  exact of_decide_eq_true entry

theorem escapeChar_of_not_mem {c : Char} (h : c ∉ escaped) :
    escapeChar c = [c] ∧ c ≠ '"' ∧ c ≠ '\\' := by
  have notLow : ¬ c.toNat < 0x20 := by
    intro low
    refine h (List.mem_cons_of_mem _ (List.mem_cons_of_mem _ (List.mem_map.mpr ?_)))
    exact ⟨c.toNat, List.mem_range.mpr low, Char.ofNat_toNat c⟩
  refine ⟨?_, fun e => h (e ▸ by decide), fun e => h (e ▸ by decide)⟩
  unfold escapeChar
  split
  case h_8 => exact if_neg notLow
  all_goals exact absurd (by decide) h

theorem escapeChar_eq_cons (c : Char) : ∃ d ds, escapeChar c = d :: ds ∧ d ≠ '"' := by
  by_cases h : c ∈ escaped
  · obtain ⟨d, ds, eq, _⟩ := escapeChar_of_mem c h
    exact ⟨'\\', d :: ds, eq, by decide⟩
  · obtain ⟨eq, ne, _⟩ := escapeChar_of_not_mem h
    exact ⟨c, [], eq, ne⟩

/-- The escaped form of a character can be told apart from what follows it. -/
theorem escapeChar_append_inj {c d : Char} {xs ys : List Char}
    (h : escapeChar c ++ xs = escapeChar d ++ ys) : c = d ∧ xs = ys := by
  have same : c = d := by
    by_cases hc : c ∈ escaped
    · by_cases hd : d ∈ escaped
      · rcases List.prefix_or_prefix_of_prefix (List.prefix_append (escapeChar c) xs)
          (h ▸ List.prefix_append (escapeChar d) ys) with p | p
        · exact escapeChar_prefix_free c hc d hd p
        · exact (escapeChar_prefix_free d hd c hc p).symm
      · obtain ⟨e, es, eq, _⟩ := escapeChar_of_mem c hc
        obtain ⟨eq', _, ne⟩ := escapeChar_of_not_mem hd
        rw [eq, eq'] at h
        exact absurd (List.cons.inj h).1.symm ne
    · obtain ⟨eq, _, ne⟩ := escapeChar_of_not_mem hc
      by_cases hd : d ∈ escaped
      · obtain ⟨e, es, eq', _⟩ := escapeChar_of_mem d hd
        rw [eq, eq'] at h
        exact absurd (List.cons.inj h).1 ne
      · rw [eq, (escapeChar_of_not_mem hd).1] at h
        exact (List.cons.inj h).1
  subst same
  exact ⟨rfl, List.append_cancel_left h⟩

/-- A quoted text can be told apart from what follows it. -/
theorem quoteChars_append_inj {cs ds xs ys : List Char}
    (h : quoteChars cs ++ xs = quoteChars ds ++ ys) : cs = ds ∧ xs = ys := by
  simp only [quoteChars, List.cons_append, List.append_assoc, List.nil_append,
    List.cons.injEq, true_and] at h
  induction cs generalizing ds with
  | nil =>
    cases ds with
    | nil => exact ⟨rfl, (List.cons.inj h).2⟩
    | cons d ds =>
      obtain ⟨e, es, eq, ne⟩ := escapeChar_eq_cons d
      rw [List.flatMap_cons, eq] at h
      exact absurd (List.cons.inj h).1.symm ne
  | cons c cs ih =>
    cases ds with
    | nil =>
      obtain ⟨e, es, eq, ne⟩ := escapeChar_eq_cons c
      rw [List.flatMap_cons, eq] at h
      exact absurd (List.cons.inj h).1 ne
    | cons d ds =>
      simp only [List.flatMap_cons, List.append_assoc] at h
      obtain ⟨rfl, rest⟩ := escapeChar_append_inj h
      obtain ⟨rfl, eq⟩ := ih rest
      exact ⟨rfl, eq⟩

/-! ## Documents -/

/-- One key of a document with its text. -/
def fieldChars (entry : String × String) : List Char :=
  quoteChars entry.1.toList ++ ':' :: quoteChars entry.2.toList

/-- The keys of a document with their texts, each behind a comma. -/
def furtherChars (entries : List (String × String)) : List Char :=
  entries.flatMap fun entry => ',' :: fieldChars entry

/-- The keys of a document with their texts, and commas between them. -/
def bodyChars : List (String × String) → List Char
  | [] => []
  | entry :: entries => fieldChars entry ++ furtherChars entries

/-- The characters of a document. -/
def documentChars (d : Dictionary) : List Char := '\x7b' :: bodyChars d.entries ++ ['\x7d']

theorem intercalate_comma (entry : String × String) (entries : List (String × String)) :
    [','].intercalate ((entry :: entries).map fieldChars) = bodyChars (entry :: entries) := by
  induction entries generalizing entry with
  | nil => simp only [List.map_cons, List.map_nil, List.intercalate_singleton, bodyChars,
      furtherChars, List.flatMap_nil, List.append_nil]
  | cons next entries ih =>
    rw [List.map_cons, List.map_cons, List.intercalate_cons_cons, ← List.map_cons, ih]
    simp only [bodyChars, furtherChars, List.flatMap_cons, List.append_assoc, List.cons_append,
      List.nil_append]

theorem toList_compact_ofDictionary (d : Dictionary) :
    (ofDictionary d).compact.toList = documentChars d := by
  have fields : ∀ entries : List (String × String),
      (compactFields (entries.map fun e => (e.1, .text e.2))).map String.toList =
        entries.map fieldChars := by
    intro entries
    induction entries with
    | nil => rfl
    | cons entry entries ih =>
      simp only [List.map_cons, compactFields, compact, String.toList_append, toList_quote, ih,
        fieldChars, show ":".toList = [':'] from rfl, List.append_assoc, List.cons_append,
        List.nil_append]
  have body : ",".toList.intercalate (d.entries.map fieldChars) = bodyChars d.entries := by
    cases d.entries with
    | nil => rfl
    | cons entry entries => exact intercalate_comma entry entries
  change (object (d.entries.map fun e => (e.1, .text e.2))).compact.toList = documentChars d
  simp only [compact, bracketed, String.toList_append, String.toList_intercalate, fields, body,
    documentChars]
  rfl

theorem fieldChars_append_inj {e f : String × String} {xs ys : List Char}
    (h : fieldChars e ++ xs = fieldChars f ++ ys) : e = f ∧ xs = ys := by
  simp only [fieldChars, List.append_assoc, List.cons_append] at h
  obtain ⟨key, h⟩ := quoteChars_append_inj h
  obtain ⟨text, h⟩ := quoteChars_append_inj (List.cons.inj h).2
  exact ⟨Prod.ext (String.toList_inj.mp key) (String.toList_inj.mp text), h⟩

theorem furtherChars_inj {es fs : List (String × String)}
    (h : furtherChars es = furtherChars fs) : es = fs := by
  induction es generalizing fs with
  | nil =>
    cases fs with
    | nil => rfl
    | cons f fs => cases h
  | cons e es ih =>
    cases fs with
    | nil => cases h
    | cons f fs =>
      simp only [furtherChars, List.flatMap_cons, List.cons_append, List.cons.injEq,
        true_and] at h
      obtain ⟨rfl, rest⟩ := fieldChars_append_inj h
      rw [ih rest]

/-- **Documents of different dictionaries differ.** -/
theorem documentChars_inj {c d : Dictionary} (h : documentChars c = documentChars d) : c = d := by
  have body : bodyChars c.entries = bodyChars d.entries :=
    List.append_cancel_right (List.cons.inj h).2
  have entries : c.entries = d.entries := by
    cases hc : c.entries with
    | nil =>
      cases hd : d.entries with
      | nil => rfl
      | cons f fs => rw [hc, hd] at body; cases body
    | cons e es =>
      cases hd : d.entries with
      | nil => rw [hc, hd] at body; cases body
      | cons f fs =>
        rw [hc, hd] at body
        obtain ⟨rfl, rest⟩ := fieldChars_append_inj body
        rw [furtherChars_inj rest]
  cases c
  cases d
  congr

/-! ## What stands outside of quotes -/

/-- **Whether a quote is left open, and the characters outside of quotes**, when `inside` says that
the text begins inside a quote. A backslash hides the character behind it. -/
def scan (inside : Bool) : List Char → Bool × List Char
  | [] => (inside, [])
  | '\\' :: _ :: cs => scan inside cs
  | '"' :: cs => scan (!inside) cs
  | c :: cs => ((scan inside cs).1, if inside then (scan inside cs).2 else c :: (scan inside cs).2)

/-- A character that is neither a quote nor hides the next one stands where it is seen. -/
theorem scan_cons {c : Char} {cs : List Char} (slash : c = '\\' → cs = []) (quote : c ≠ '"')
    (inside : Bool) :
    scan inside (c :: cs) =
      ((scan inside cs).1, if inside then (scan inside cs).2 else c :: (scan inside cs).2) := by
  rw [scan]
  · exact fun d ds eq more => absurd (slash eq) (more ▸ List.cons_ne_nil d ds)
  · exact quote

/-- Scans that begin in different states end in different states. -/
theorem scan_not (inside : Bool) (cs : List Char) :
    (scan (!inside) cs).1 = !(scan inside cs).1 := by
  fun_induction scan inside cs with
  | case1 inside => rfl
  | case2 inside c cs ih => rw [scan, ih]
  | case3 inside cs ih => rw [scan, ih]
  | case4 inside c cs slash quote ih =>
    rw [scan_cons _ quote, ih]
    intro eq
    cases cs with
    | nil => rfl
    | cons d ds => exact (slash d ds eq rfl).elim

/-- A scan passes from one text to the next behind a colon, which is never left waiting for the
character that a backslash hides. -/
theorem scan_append (inside : Bool) (cs ds : List Char) :
    scan inside (cs ++ ':' :: ds) =
      ((scan (scan inside (cs ++ [':'])).1 ds).1,
        (scan inside (cs ++ [':'])).2 ++ (scan (scan inside (cs ++ [':'])).1 ds).2) := by
  fun_induction scan inside cs with
  | case1 inside => cases inside <;> rfl
  | case2 inside c cs ih => simpa only [List.cons_append, scan] using ih
  | case3 inside cs ih => simpa only [List.cons_append, scan] using ih
  | case4 inside c cs slash quote ih =>
    cases cs with
    | nil =>
      by_cases eq : c = '\\'
      · subst eq
        simp only [List.cons_append, List.nil_append, scan]
      · simp only [List.cons_append, List.nil_append, scan_cons (fun h => absurd h eq) quote]
        cases inside <;> rfl
    | cons d cs =>
      have plain : c ≠ '\\' := fun eq => slash d cs eq rfl
      simp only [List.cons_append] at ih ⊢
      rw [scan_cons (fun h => absurd h plain) quote, scan_cons (fun h => absurd h plain) quote, ih]
      cases inside <;> rfl

/-- **A text that a scan passes from outside to outside**, meeting no opening brace there. -/
def Passed (cs : List Char) : Prop :=
  ∃ outer, '\x7b' ∉ outer ∧
    ∀ ds, scan false (cs ++ ds) = ((scan false ds).1, outer ++ (scan false ds).2)

theorem passed_nil : Passed [] := ⟨[], List.not_mem_nil, fun _ => rfl⟩

theorem Passed.append {cs ds : List Char} (hc : Passed cs) (hd : Passed ds) :
    Passed (cs ++ ds) := by
  obtain ⟨first, none, scanned⟩ := hc
  obtain ⟨second, none', scanned'⟩ := hd
  refine ⟨first ++ second, fun mem => (List.mem_append.mp mem).elim none none', fun es => ?_⟩
  rw [List.append_assoc, scanned, scanned', List.append_assoc]

/-- Inside of quotes a scan passes the escaped form of a character. -/
theorem scan_escapeChar (c : Char) (ds : List Char) :
    scan true (escapeChar c ++ ds) = scan true ds := by
  by_cases h : c ∈ escaped
  · obtain ⟨d, es, eq, plain⟩ := escapeChar_of_mem c h
    rw [eq, List.cons_append, List.cons_append, scan]
    clear eq
    induction es with
    | nil => rfl
    | cons e es ih =>
      obtain ⟨⟨quote, slash⟩, rest⟩ := List.forall_mem_cons.mp plain
      rw [List.cons_append, scan_cons (fun eq => absurd eq slash) quote, ih rest]
      rfl
  · obtain ⟨eq, quote, slash⟩ := escapeChar_of_not_mem h
    rw [eq, List.singleton_append, scan_cons (fun eq => absurd eq slash) quote]
    rfl

theorem passed_quoteChars (cs : List Char) : Passed (quoteChars cs) := by
  refine ⟨[], List.not_mem_nil, fun ds => ?_⟩
  have body : scan true (cs.flatMap escapeChar ++ '"' :: ds) = scan false ds := by
    induction cs with
    | nil => rfl
    | cons c cs ih => rw [List.flatMap_cons, List.append_assoc, scan_escapeChar, ih]
  simp only [quoteChars, List.cons_append, List.append_assoc, List.nil_append, scan]
  exact body

/-- A colon or a comma between quoted texts. -/
theorem passed_singleton {c : Char} (quote : c ≠ '"') (slash : c ≠ '\\') (brace : c ≠ '\x7b') :
    Passed [c] := by
  refine ⟨[c], fun mem => brace (List.mem_singleton.mp mem).symm, fun ds => ?_⟩
  rw [List.singleton_append, scan_cons (fun eq => absurd eq slash) quote]
  rfl

theorem passed_fieldChars (entry : String × String) : Passed (fieldChars entry) :=
  (passed_quoteChars _).append
    ((passed_singleton (by decide) (by decide) (by decide)).append (passed_quoteChars _))

theorem passed_furtherChars (entries : List (String × String)) :
    Passed (furtherChars entries) := by
  induction entries with
  | nil => exact passed_nil
  | cons entry entries ih =>
    rw [furtherChars, List.flatMap_cons]
    exact ((passed_singleton (by decide) (by decide) (by decide)).append
      (passed_fieldChars entry)).append ih

/-- A document has one opening brace outside of quotes, its first character, and leaves no quote
open. -/
theorem scan_documentChars (d : Dictionary) :
    ∃ outer, '\x7b' ∉ outer ∧ scan false (documentChars d) = (false, '\x7b' :: outer) := by
  have body : Passed (bodyChars d.entries) := by
    cases d.entries with
    | nil => exact passed_nil
    | cons entry entries => exact (passed_fieldChars entry).append (passed_furtherChars entries)
  obtain ⟨outer, none, scanned⟩ := body
  refine ⟨outer ++ ['\x7d'], fun mem => ?_, ?_⟩
  · rcases List.mem_append.mp mem with mem | mem
    · exact none mem
    · exact absurd mem (by decide)
  · rw [documentChars, List.cons_append,
      scan_cons (fun eq => absurd eq (by decide)) (by decide), scanned]
    rfl

/-! ## Names and documents -/

/-- No document ends in a colon and another document. Where the colon stands outside of quotes, the
text would have two opening braces there; where it stands inside, the quotes of the inner document
would be closed by its own end and those of the outer one would not. -/
theorem documentChars_ne_append (c d : Dictionary) (cs : List Char) :
    documentChars c ≠ cs ++ ':' :: documentChars d := by
  intro eq
  obtain ⟨outer, none, scanned⟩ := scan_documentChars c
  obtain ⟨inner, _, scanned'⟩ := scan_documentChars d
  have split := scan_append false cs (documentChars d)
  rw [← eq, scanned] at split
  cases state : (scan false (cs ++ [':'])).1 with
  | true =>
    have last := scan_not false (documentChars d)
    rw [scanned'] at last
    rw [state] at split
    exact Bool.false_ne_true ((Prod.mk.inj split).1.trans last)
  | false =>
    rw [state, scanned'] at split
    have outside := (Prod.mk.inj split).2
    cases first : (scan false (cs ++ [':'])).2 with
    | nil =>
      cases cs with
      | nil => cases first
      | cons b cs =>
        obtain rfl : b = '\x7b' := (List.cons.inj eq).1.symm
        rw [List.cons_append, scan_cons (fun eq => absurd eq (by decide)) (by decide)] at first
        cases first
    | cons b before =>
      rw [first, List.cons_append, List.cons.injEq] at outside
      exact none (outside.2 ▸ List.mem_append_right _ List.mem_cons_self)

/-- **A name, a colon and a document can be told apart**, whatever characters the name has. -/
theorem named_document_inj {cs ds : List Char} {c d : Dictionary}
    (h : cs ++ ':' :: documentChars c = ds ++ ':' :: documentChars d) : cs = ds ∧ c = d := by
  rcases List.append_eq_append_iff.mp h with ⟨more, first, second⟩ | ⟨more, first, second⟩
  · cases more with
    | nil => exact ⟨by rw [first, List.append_nil], documentChars_inj (List.cons.inj second).2⟩
    | cons b more => exact absurd (List.cons.inj second).2 (documentChars_ne_append c d more)
  · cases more with
    | nil =>
      exact ⟨by rw [first, List.append_nil], (documentChars_inj (List.cons.inj second).2).symm⟩
    | cons b more => exact absurd (List.cons.inj second).2 (documentChars_ne_append d c more)

end RunFilter.Json
