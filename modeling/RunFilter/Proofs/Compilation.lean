import RunFilter.Compiler
import RunFilter.Proofs.References

/-!
# What a compiler was checked for

A compiler exists only for settings with a known dialect, valid table names and a default filter
that is read and resolved without a mistake (`ofSettings_eq_ok`). A query is compiled in the same
two steps, with the default filter beside it; the only mistakes are those of reading and of
resolving (`compile_eq_error`).
-/

set_option autoImplicit false

namespace RunFilter

namespace Resolution

variable {tables : Dictionary} {filter : Filter}

theorem ofFilter_eq_ok {r : Resolution} : ofFilter tables (some filter) = .ok r ↔
    ∃ c, filter.condition tables = .ok c ∧ ofCondition c = r := by
  cases checked : filter.condition tables <;> simp [ofFilter, checked, Except.map]

theorem ofFilter_eq_error {x : SyntaxError} :
    ofFilter tables (some filter) = .error x ↔ filter.condition tables = .error x := by
  cases checked : filter.condition tables <;> simp [ofFilter, checked, Except.map]

end Resolution

namespace Compiler

/-- **The settings that compilers are made of.** -/
theorem ofSettings_eq_ok {settings : Settings} {c : Compiler} : ofSettings settings = .ok c ↔
    ∃ dialect default, Dialect.ofName? settings.dialect = some dialect ∧
      settings.validateTables = .ok () ∧
      Filter.parse settings.default.expression = .ok default ∧
      (∃ r, Resolution.ofFilter settings.tables default = .ok r) ∧
      c = ⟨settings, dialect, default⟩ := by
  unfold ofSettings
  cases named : Dialect.ofName? settings.dialect with
  | none => simp [throw, throwThe, MonadExceptOf.throw]
  | some dialect =>
    simp only [bind_eq_ok, mapError_eq_ok, pure_eq_ok, Option.some.injEq]
    constructor
    · rintro ⟨⟨⟩, valid, default, read, r, resolved, rfl⟩
      exact ⟨dialect, default, rfl, valid, read, ⟨r, resolved⟩, rfl⟩
    · rintro ⟨_, default, rfl, valid, read, ⟨r, resolved⟩, rfl⟩
      exact ⟨(), valid, default, read, r, resolved, rfl⟩

variable {c : Compiler} {query : String}

theorem compile_eq_error {x : SyntaxError} : c.compile query = .error x ↔
    Filter.parse query = .error x ∨ ∃ filter y, Filter.parse query = .ok filter ∧
      Resolution.ofFilter c.settings.tables (c.withDefault query filter) = .error y ∧
      y.inStatement query = x := by
  unfold compile resolve
  cases Filter.parse query with
  | error e => simp [bind, Except.bind, Except.map]
  | ok filter =>
    simp only [ok_bind, reduceCtorEq, Except.ok.injEq, false_or, exists_and_left, exists_eq_left']
    cases Resolution.ofFilter c.settings.tables (c.withDefault query filter) with
    | error e => simp [error_mapError, Except.map]
    | ok r => simp [ok_mapError, Except.map]

theorem compile_eq_ok_iff {q : CompiledQuery} : c.compile query = .ok q ↔
    ∃ filter r, Filter.parse query = .ok filter ∧
      Resolution.ofFilter c.settings.tables (c.withDefault query filter) = .ok r ∧
      c.ofResolution r = q := by
  unfold compile resolve
  cases Filter.parse query with
  | error e => simp [bind, Except.bind, Except.map]
  | ok filter =>
    simp only [ok_bind, Except.ok.injEq, exists_and_left, exists_eq_left']
    cases Resolution.ofFilter c.settings.tables (c.withDefault query filter) with
    | error e => simp [error_mapError, Except.map]
    | ok r => simp [ok_mapError, Except.map]

end Compiler

end RunFilter
