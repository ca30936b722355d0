import RunFilter.Proofs.Compilation
import RunFilter.Proofs.Parsing.Groups
import RunFilter.Proofs.Places

/-!
# The default filter as part of a query

The default filter is added to the tree of a query and not to its text. It could as well be typed:
**the law** (`default_as_typed`) says that a query compiles as the text `(query) and (default)` does
without a default filter, to the same joins, condition and values.

Both texts have to be filters in parentheses as well: the text as it would be typed has one group
more around each part, and groups nest only so deep.
-/

set_option autoImplicit false

namespace RunFilter

/-- A text that is searched for stands inside the text where it is found. -/
theorem Text.isInfix_of_contains {part whole : List Char} (h : Text.contains part whole = true) :
    part <:+: whole := by
  induction whole with
  | nil =>
    rw [Text.contains, List.isEmpty_iff] at h
    subst h
    exact List.infix_refl []
  | cons c cs ih =>
    rw [Text.contains, Bool.or_eq_true] at h
    rcases h with here | further
    · exact (List.isPrefixOf_iff_prefix.mp here).isInfix
    · exact (ih further).trans (List.suffix_cons c cs).isInfix

namespace Resolution

/-- Filters that differ in places only have one resolution. -/
theorem ofFilter_eq_of_bare_eq {tables : Dictionary} {f g : Filter} (same : f.bare = g.bare)
    {r : Resolution} : ofFilter tables (some f) = .ok r ↔ ofFilter tables (some g) = .ok r := by
  simp only [ofFilter_eq_ok, Filter.condition_eq_of_bare_eq same]

end Resolution

namespace Compiler

/-- The filter of the empty text is no filter. -/
theorem parse_empty : Filter.parse "" = .ok none := by
  have tokens : TokenStream.ofString "" = .finish 0 := TokenStream.scanFrom_of_end rfl
  rw [Filter.parse_eq_ok, tokens]
  rfl

/-- **A compiler without a default filter** exists wherever one with a default filter does. -/
theorem ofSettings_without_default {settings : Settings} {c : Compiler}
    (made : ofSettings settings = .ok c) (marker : String) :
    ofSettings { settings with default := ⟨marker, ""⟩ } =
      .ok ⟨{ settings with default := ⟨marker, ""⟩ }, c.dialect, none⟩ := by
  obtain ⟨dialect, default, named, valid, _, _, rfl⟩ := ofSettings_eq_ok.mp made
  exact ofSettings_eq_ok.mpr ⟨dialect, none, named, valid, parse_empty, ⟨_, rfl⟩, rfl⟩

/-- **The default filter is as if it were typed.** Where a query does not mention the marker, and
the query and the default filter are filters alone and in parentheses, the compiler makes of the
query what it makes of `(query) and (default)` without a default filter. -/
theorem default_as_typed (settings : Settings) (c : Compiler) (made : ofSettings settings = .ok c)
    (query : String) (unmarked : ¬ settings.default.contains.toList <:+: query.toList)
    (f f' d d' : Filter) (read : Filter.parse query = .ok (some f))
    (grouped : Filter.parse ("(" ++ query ++ ")") = .ok (some f'))
    (default : Filter.parse settings.default.expression = .ok (some d))
    (default_grouped : Filter.parse ("(" ++ settings.default.expression ++ ")") = .ok (some d')) :
    ∀ marker, ∃ plain,
      ofSettings { settings with default := ⟨marker, ""⟩ } = .ok plain ∧
      ∀ compiled, c.compile query = .ok compiled ↔
        plain.compile ("(" ++ query ++ ") and (" ++ settings.default.expression ++ ")") =
          .ok compiled := by
  intro marker
  refine ⟨_, ofSettings_without_default made marker, fun compiled => ?_⟩
  obtain ⟨dialect, defaultFilter, _, _, found, _, rfl⟩ := ofSettings_eq_ok.mp made
  cases default.symm.trans found
  obtain ⟨whole, typed, same⟩ := Filter.parse_both read grouped default default_grouped
  have unmentioned : mentionsMarker ⟨settings, dialect, some d⟩ query = false :=
    Bool.eq_false_iff.mpr fun h => unmarked (Text.isInfix_of_contains h)
  simp only [compile_eq_ok_iff, read, typed, Except.ok.injEq, exists_and_left, exists_eq_left',
    withDefault, unmentioned, Bool.false_eq_true, if_false,
    Resolution.ofFilter_eq_of_bare_eq same]
  exact Iff.rfl

theorem exists_parse_of_isSome {s : String}
    (h : ((Filter.parse s).toOption.bind id).isSome = true) :
    ∃ f, Filter.parse s = .ok (some f) := by
  obtain ⟨f, h⟩ := Option.isSome_iff_exists.mp h
  obtain ⟨_, read, rfl⟩ := Option.bind_eq_some_iff.mp h
  exact ⟨f, toOption_eq_some.mp read⟩

/-- Runs that are active or took long, and are not archived. -/
def activeOrLong : Fragment where
  sql := "(\"runs\".\"status\" = ? OR (runs.end_time - runs.start_time) / 1000 > ?)" ++
    " AND \"runs\".\"lifecycle_stage\" <> ?"
  params := [.text "RUNNING", .int 5, .text "deleted"]

/-- An `or` does not escape the default filter of the standard settings, which asks for runs that are
not archived. -/
theorem default_as_typed_activeOrLong :
    ∃ c plain compiled, ofSettings Settings.standard = .ok c ∧
      ofSettings { Settings.standard with default := ⟨"", ""⟩ } = .ok plain ∧
      c.compile "run.active or run.duration > 5" = .ok compiled ∧
      plain.compile "(run.active or run.duration > 5) and (not run.archived)" = .ok compiled ∧
      compiled.condition = some activeOrLong := by
  have compiles : ((ofSettings Settings.standard).toOption.bind fun c =>
      (c.compile "run.active or run.duration > 5").toOption.bind (·.condition)) =
        some activeOrLong := by
    decide +kernel
  obtain ⟨c, made, compiles⟩ := Option.bind_eq_some_iff.mp compiles
  obtain ⟨compiled, compiles, condition⟩ := Option.bind_eq_some_iff.mp compiles
  rw [toOption_eq_some] at made compiles
  have unmarked : ¬ Settings.standard.default.contains.toList <:+:
      "run.active or run.duration > 5".toList := by
    decide +kernel
  obtain ⟨f, read⟩ := @exists_parse_of_isSome "run.active or run.duration > 5" (by decide +kernel)
  obtain ⟨f', grouped⟩ := @exists_parse_of_isSome
    ("(" ++ "run.active or run.duration > 5" ++ ")") (by decide +kernel)
  obtain ⟨d, default⟩ := @exists_parse_of_isSome Settings.standard.default.expression
    (by decide +kernel)
  obtain ⟨d', default_grouped⟩ := @exists_parse_of_isSome
    ("(" ++ Settings.standard.default.expression ++ ")") (by decide +kernel)
  obtain ⟨plain, without, same⟩ := default_as_typed Settings.standard c made
    "run.active or run.duration > 5" unmarked f f' d d' read grouped default default_grouped ""
  exact ⟨c, plain, compiled, made, without, compiles, (same compiled).mp compiles, condition⟩

end Compiler

end RunFilter
