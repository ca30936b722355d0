import RunFilter.Proofs.Checks
import RunFilter.Proofs.Parsing.Reports

/-!
# Places of mistakes

A mistake of a query is reported with the query and a place in it.

**The law** (`mistakes_have_places`): the places in a filter that was read are those of its parts in
the text. Whatever mistake a compiler reports for a query, the query falls apart at the place of the
mistake: a token begins there, or characters that make none, or the query ends there; only for a
constant that stands where a condition should it is the beginning of the query. What is shown from
the place on is the rest of the query, nothing cut off. A mistake about an attribute shows the
entity of the attribute first.

Checking a filter makes no places of its own. What it reports for a leaf (`Refused`) stands at a
path of the leaf, or where the leaf itself stands.
-/

set_option autoImplicit false

namespace RunFilter

namespace Filter

/-! ## Leaves of a filter in a text -/

variable {s : String} {tables : Dictionary}

mutual
/-- **The paths of a filter are placed where it is.** -/
theorem placedIn_of_mem_paths : ∀ {f : Filter}, f.PlacedIn s → ∀ p ∈ f.paths, p.PlacedIn s
  | .literal _, _, _, mem | .list _, _, _, mem => (List.not_mem_nil mem).elim
  | .attribute _, placed, _, mem => List.mem_singleton.mp mem ▸ placed
  | .comparison .., ⟨_, left, right⟩, p, mem =>
    (List.mem_append.mp mem).elim (placedIn_of_mem_paths left p) (placedIn_of_mem_paths right p)
  | .boolean .., placed, p, mem => placedIn_of_mem_pathsAll placed p mem
  | .call .., ⟨_, placed⟩, p, mem => placedIn_of_mem_pathsAll placed p mem
theorem placedIn_of_mem_pathsAll : ∀ {fs : List Filter}, PlacedAllIn s fs →
    ∀ p ∈ pathsAll fs, p.PlacedIn s
  | [], _, _, mem => (List.not_mem_nil mem).elim
  | _ :: _, ⟨first, rest⟩, p, mem =>
    (List.mem_append.mp mem).elim (placedIn_of_mem_paths first p) (placedIn_of_mem_pathsAll rest p)
end

/-- A part that no connective makes. -/
def IsLeaf : Filter → Prop
  | .boolean .. => False
  | .literal _ | .list _ | .attribute _ | .comparison .. | .call .. => True

mutual
/-- A leaf is placed where the filter is, and names no other attributes. -/
theorem placedIn_of_mem_leaves : ∀ {f leaf : Filter}, leaf ∈ f.leaves →
    leaf.IsLeaf ∧ leaf.paths ⊆ f.paths ∧ (f.PlacedIn s → leaf.PlacedIn s)
  | .boolean .., _, mem => placedIn_of_mem_leavesAll mem
  | .literal _, _, mem | .list _, _, mem | .attribute _, _, mem | .comparison .., _, mem
  | .call .., _, mem => by
    rw [List.mem_singleton.mp mem]
    exact ⟨trivial, List.Subset.refl _, id⟩
theorem placedIn_of_mem_leavesAll : ∀ {fs : List Filter} {leaf : Filter}, leaf ∈ leavesAll fs →
    leaf.IsLeaf ∧ leaf.paths ⊆ pathsAll fs ∧ (PlacedAllIn s fs → leaf.PlacedIn s)
  | [], _, mem => (List.not_mem_nil mem).elim
  | f :: fs, leaf, mem => by
    rcases List.mem_append.mp mem with here | there
    · obtain ⟨isLeaf, subset, placed⟩ := placedIn_of_mem_leaves here
      exact ⟨isLeaf, List.subset_append_of_subset_left _ subset, fun all => placed all.1⟩
    · obtain ⟨isLeaf, subset, placed⟩ := placedIn_of_mem_leavesAll there
      exact ⟨isLeaf, List.subset_append_of_subset_right _ subset, fun all => placed all.2⟩
end

/-- A constant, or a list of them. -/
inductive IsConstant : Filter → Prop
  | literal (value : Value) : IsConstant (.literal value)
  | list (values : List Value) : IsConstant (.list values)

/-- **What checking a filter reports for a text**, where the filter is placed in it. -/
inductive RefusedIn (s : String) (tables : Dictionary) (f : Filter) : SyntaxError → Prop
  | path {p : AttributePath} {fault : Fault} (mem : p ∈ f.paths)
      (h : p.operand tables = .error fault) : RefusedIn s tables f (fault.at p.offset)
  | order {t : Token} {before lexeme after : List Char} {fault : Fault}
      (h : TokenIn s t before lexeme after) (kind : fault.kind = .parse) :
      RefusedIn s tables f (fault.at (Text.byteLength before))
  | constant {leaf : Filter} (mem : leaf ∈ f.leaves) (h : leaf.IsConstant) :
      RefusedIn s tables f (Fault.constantAlone.at 0)

/-- What is reported for a leaf is reported for the filter, at a place of the text. -/
theorem RefusedIn.of_refused {f : Filter} {operands : List Filter} {place : Nat} {x : SyntaxError}
    (h : Refused tables operands place x) (subset : pathsAll operands ⊆ f.paths)
    (token : ∃ t before lexeme after, TokenIn s t before lexeme after ∧
      Text.byteLength before = place) : RefusedIn s tables f x := by
  cases h with
  | path mem refused => exact .path (subset (paths_subset_pathsAll mem List.mem_cons_self)) refused
  | order kind =>
    obtain ⟨t, before, lexeme, after, found, rfl⟩ := token
    exact .order found kind

/-- **Each leaf is reported where it stands**, and what stands there is known from its placement. -/
theorem refusedIn_of_leaf {f leaf : Filter} (placed : f.PlacedIn s) (mem : leaf ∈ f.leaves)
    {x : SyntaxError} (h : leaf.condition tables = .error x) : RefusedIn s tables f x := by
  obtain ⟨isLeaf, subset, keeps⟩ := placedIn_of_mem_leaves (s := s) mem
  have placed := keeps placed
  have at_path : ∀ {p : AttributePath}, p.PlacedIn s → ∃ t before lexeme after,
      TokenIn s t before lexeme after ∧ Text.byteLength before = p.offset :=
    fun ⟨before, after, found, place⟩ => ⟨_, before, _, after, found, place⟩
  match leaf with
  | .boolean .. => exact isLeaf.elim
  | .literal value =>
    cases h
    exact .constant mem (.literal value)
  | .list values =>
    cases h
    exact .constant mem (.list values)
  | .attribute p =>
    rw [condition] at h
    exact .of_refused ((within_attributeCondition p).of_error h) subset (at_path placed)
  | .comparison left op right place =>
    rw [condition] at h
    have sides : pathsAll [left, right] ⊆ f.paths := by
      rw [pathsAll, pathsAll, pathsAll, List.append_nil]
      exact subset
    obtain ⟨⟨la, _, _, before, lexeme, after, _, _, _, _, _, found, bytes, _⟩, _⟩ := placed
    exact .of_refused ((within_comparisonCondition left op right place).of_error h) sides
      ⟨_, before, lexeme, after, found, bytes⟩
  | .call function arguments place =>
    rw [condition] at h
    refine .of_refused ((within_callCondition function place arguments).of_error h) subset ?_
    obtain ⟨called, _⟩ := placed
    cases called with
    | method _ receiver => exact at_path receiver
    | pattern _ found => exact ⟨_, _, _, _, found, rfl⟩

/-- **What checking a filter that was read reports.** -/
theorem refusedIn_of_parse {f : Filter} (read : parse s = .ok (some f)) {x : SyntaxError}
    (h : f.condition tables = .error x) : RefusedIn s tables f x := by
  obtain ⟨placed, unary⟩ := good_of_parse read
  obtain ⟨before, leaf, after, split, _, wrong⟩ := (condition_eq_error unary).mp h
  have mem : leaf ∈ f.leaves := by
    rw [split]
    simp
  exact refusedIn_of_leaf placed mem (Resolution.ofFilter_eq_error.mp wrong)

end Filter

/-! ## Mistakes in a text -/

/-- **The bytes of the characters in front are a place of a text**, which cuts it there. -/
theorem Text.splitAt?_append (before after : List Char) :
    splitAt? (byteLength before) (before ++ after) = some (before, after) := by
  induction before with
  | nil => cases after <;> rfl
  | cons c before ih =>
    have pos := c.utf8Size_pos
    have place : byteLength (c :: before) ≠ 0 := by
      rw [byteLength_cons]
      omega
    rw [List.cons_append, splitAt?, if_neg place, byteLength_cons,
      if_neg (by omega), Nat.add_sub_cancel_left, ih]
    rfl

/-- **A mistake stands in a text**: it is reported with the text and a place of it, and what is
shown from there on is the rest of the text. -/
structure SyntaxError.StandsIn (s : String) (e : SyntaxError) (before after : List Char) :
    Prop where
  statement : e.statement = s
  split : s.toList = before ++ after
  place : Text.byteLength before = e.offset
  fragment : e.fragment = String.ofList after

/-- **What stands at the place of a mistake**: a token, characters that make none, the end of the
text, or the beginning of a text with a constant in the place of a condition. -/
inductive MistakenAt (s : String) (e : SyntaxError) : List Char → List Char → Prop
  | token {t : Token} {before lexeme after : List Char} (inside : t ≠ .endOfText)
      (h : TokenIn s t before lexeme after) : MistakenAt s e before (lexeme ++ after)
  | rejected {e' : SyntaxError} {before after : List Char} (h : MistakeIn s e' before after)
      (same : e'.inStatement s = e) : MistakenAt s e before after
  | finish : MistakenAt s e s.toList []
  | constant {f leaf : Filter} (read : Filter.parse s = .ok (some f)) (mem : leaf ∈ f.leaves)
      (h : leaf.IsConstant) (worded : e.message = Fault.constantAlone.message) :
      MistakenAt s e [] s.toList

/-- **A mistake about an attribute** of a text: the reader's about its path, or that it stands for
nothing in the tables. -/
inductive Offends (s : String) (tables : Dictionary) (p : AttributePath) (fault : Fault) : Prop
  | misread (h : Misread p fault)
  | refused {f : Filter} (read : Filter.parse s = .ok (some f)) (mem : p ∈ f.paths)
      (h : p.operand tables = .error fault)

namespace SyntaxError

variable {s : String} {before lexeme after : List Char} {t : Token} {e : SyntaxError}

/-- A place between characters is a place of the text. -/
theorem standsIn (split : s.toList = before ++ after)
    (place : Text.byteLength before = e.offset) : (e.inStatement s).StandsIn s before after where
  statement := rfl
  split := split
  place := place
  fragment := by
    change Text.fragmentAt s e.offset = _
    rw [Text.fragmentAt, split, ← place, Text.splitAt?_append]

/-- A token at the place of a mistake, be it the last one that ends the text. -/
theorem mistakenAt_token (h : TokenIn s t before lexeme after) :
    MistakenAt s e before (lexeme ++ after) := by
  by_cases inside : t = .endOfText
  · subst inside
    obtain ⟨rfl, rfl⟩ := h.ended
    have whole := h.split
    rw [List.append_nil, List.append_nil] at whole
    rw [← whole]
    exact .finish
  · exact .token inside h

end SyntaxError

/-- **A mistake of a text with its place**: what is in front of it and from it on, and the attribute
that it is about, if it is about one. -/
def SyntaxError.Placed (s : String) (about : AttributePath → Fault → Prop) (e : SyntaxError) :
    Prop :=
  ∃ before after, e.StandsIn s before after ∧ MistakenAt s e before after ∧
    (e.kind = .unknownAttribute → ∃ p fault, about p fault ∧ fault.message = e.message ∧
      p.offset = e.offset ∧ p.entity.toList <+: after)

namespace Filter

variable {s : String} {tables : Dictionary} {about : AttributePath → Fault → Prop} {e : SyntaxError}

/-- A mistake at a path whose entity stands there. -/
theorem placed_of_path {p : AttributePath} (placed : p.PlacedIn s) {fault : Fault}
    (offends : about p fault) : ((fault.at p.offset).inStatement s).Placed s about := by
  obtain ⟨before, after, found, place⟩ := placed
  exact ⟨before, p.entity.toList ++ after, SyntaxError.standsIn found.split place,
    SyntaxError.mistakenAt_token found, fun _ =>
      ⟨p, fault, offends, rfl, rfl, List.prefix_append _ _⟩⟩

/-- A mistake at a token that is about no attribute. -/
theorem placed_of_token {t : Token} {before lexeme after : List Char}
    (found : TokenIn s t before lexeme after) {fault : Fault}
    (kind : fault.kind ≠ .unknownAttribute) :
    ((fault.at (Text.byteLength before)).inStatement s).Placed s about :=
  ⟨before, lexeme ++ after, SyntaxError.standsIn found.split rfl,
    SyntaxError.mistakenAt_token found, fun unknown => absurd unknown kind⟩

theorem placed_of_reported (h : Reported s e)
    (misread : ∀ p fault, Misread p fault → about p fault) :
    (e.inStatement s).Placed s about := by
  cases h with
  | characters reached read =>
    obtain ⟨before, after, found⟩ := reached.mistakeIn read
    refine ⟨before, after, SyntaxError.standsIn found.split found.place, .rejected found rfl, ?_⟩
    obtain ⟨fault, scanned, rfl⟩ := Cursor.next_eq_error.mp read
    intro unknown
    cases (Lexeme.kind_of_scan scanned).symm.trans unknown
  | token found kind =>
    refine placed_of_token found ?_
    rcases kind with kind | kind <;> simp [kind]
  | path placed wrong => exact placed_of_path placed (misread _ _ wrong)

theorem placed_of_parse (failed : parse s = .error e)
    (misread : ∀ p fault, Misread p fault → about p fault) : e.Placed s about := by
  obtain ⟨e', reported, rfl⟩ := reported_of_parse failed
  exact placed_of_reported reported misread

theorem placed_of_refusedIn {f : Filter} (read : parse s = .ok (some f))
    (h : RefusedIn s tables f e) : (e.inStatement s).Placed s (Offends s tables) := by
  cases h with
  | path mem refused =>
    exact placed_of_path (placedIn_of_mem_paths (good_of_parse read).1 _ mem)
      (.refused read mem refused)
  | order found kind => exact placed_of_token found (by simp [kind])
  | constant mem bare =>
    exact ⟨[], s.toList, SyntaxError.standsIn rfl rfl, .constant read mem bare rfl,
      fun unknown => by cases unknown⟩

/-- **Mistakes have places.** The places in a filter that was read are those of its parts in the
text. A mistake that reading a query reports, or compiling it with any settings, comes with the
query and with the place of a token, of characters that make none, or of the end of the query; only
a constant in the place of a condition is reported at its beginning. What is shown from there on is
the rest of the query, and begins with the entity of the attribute that the mistake is about. -/
theorem mistakes_have_places (s : String) :
    (∀ f, parse s = .ok (some f) → f.PlacedIn s) ∧
      (∀ e, parse s = .error e → e.Placed s Misread) ∧
      ∀ settings c, Compiler.ofSettings settings = .ok c → ∀ e, c.compile s = .error e →
        e.Placed s (Offends s settings.tables) := by
  refine ⟨fun f read => (good_of_parse read).1,
    fun e failed => placed_of_parse failed fun _ _ misread => misread, ?_⟩
  intro settings c made e failed
  obtain unread | ⟨found, y, read, wrong, rfl⟩ := Compiler.compile_eq_error.mp failed
  · exact placed_of_parse unread fun _ _ misread => .misread misread
  · have same : c.settings = settings := by
      obtain ⟨_, _, _, _, _, _, rfl⟩ := Compiler.ofSettings_eq_ok.mp made
      rfl
    rw [same, Compiler.withDefault_eq_error made] at wrong
    obtain ⟨f, rfl, wrong⟩ := wrong
    exact placed_of_refusedIn read
      (refusedIn_of_parse read (Resolution.ofFilter_eq_error.mp wrong))

/-- An attribute that does not exist, behind a character of two bytes, is shown from its entity
on. -/
theorem mistakes_have_places_runTitle :
    let s := "'é' == run.title"
    ∃ c e, Compiler.ofSettings Settings.standard = .ok c ∧ c.compile s = .error e ∧
      e.offset = 8 ∧ e.fragment = "run.title" ∧
      ∃ p fault, Offends s Settings.standardTables p fault ∧ p.offset = 8 ∧
        p.entity.toList <+: "run.title".toList := by
  intro s
  have wrong : ((Compiler.ofSettings Settings.standard).toOption.bind fun c =>
      mistake? (c.compile s)) =
        some (((Fault.unknownField "run" "title").at 8).inStatement s) := by
    decide +kernel
  obtain ⟨c, made, failed⟩ := Option.bind_eq_some_iff.mp wrong
  rw [toOption_eq_some] at made
  rw [mistake?_eq_some] at failed
  have shown :
      (((Fault.unknownField "run" "title").at 8).inStatement s).fragment = "run.title" := by
    decide +kernel
  obtain ⟨before, after, stands, _, about⟩ :=
    (mistakes_have_places s).2.2 Settings.standard c made _ failed
  obtain ⟨p, fault, offends, _, place, entity⟩ := about rfl
  have rest : "run.title".toList = after := by
    rw [← shown, stands.fragment, String.toList_ofList]
  exact ⟨c, _, made, failed, rfl, shown, p, fault, offends, place, rest ▸ entity⟩

end Filter

end RunFilter
