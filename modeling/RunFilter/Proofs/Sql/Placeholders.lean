import RunFilter.Proofs.Sql.Following

/-!
# Placeholders and their values

A statement is built from joins and conditions that queries have added one after the other. Its
draft is put together from the drafts of those, and the statement follows it.

**The law** (`Compiler.placeholders_aligned`): the statement of queries that a compiler accepts is
numbered from the draft of their joins and conditions, so the value of a placeholder is the one
that stands there.
-/

set_option autoImplicit false

namespace RunFilter

open Sql (Draft)

/-! ## Statements -/

namespace Select

open Fragment (Follows)

/-- **A statement** with the table and columns of another, and with joins and conditions given by
their drafts. -/
def draft (s : Select) (joins conditions : List Draft) : Draft :=
  Draft.text ("SELECT " ++ s.columnList ++ " FROM " ++ Sql.quoteIdentifier s.table) ++
    joins.flatMap (fun l => Draft.text " " ++ l) ++
    if conditions.isEmpty then []
    else Draft.text " WHERE " ++
      Draft.join " AND " (if 1 < conditions.length then conditions.map .grouped else conditions)

theorem quiet_header {s : Select} (table : Text.isIdentifier s.table = true)
    (columns : ∀ name ∈ s.columns, Text.isIdentifier name = true) :
    Sql.Quiet ("SELECT " ++ s.columnList ++ " FROM " ++ Sql.quoteIdentifier s.table) := by
  have listed : Sql.Quiet s.columnList := by
    unfold columnList
    split
    · decide
    · refine Sql.quiet_intercalate (by decide) fun quoted mem => ?_
      obtain ⟨name, selected, rfl⟩ := List.mem_map.mp mem
      exact Sql.quiet_quoteIdentifier (columns name selected)
  exact ((Sql.Quiet.append (by decide) listed).append (by decide)).append
    (Sql.quiet_quoteIdentifier table)

theorem follows_joins {parts : List Fragment} {ls : List Draft} (h : List.Forall₂ Follows parts ls)
    {f : Fragment} {l : Draft} (header : f.Follows l) :
    (Fragment.mk (f.sql ++ String.join (parts.map fun part => " " ++ part.sql))
      (f.params ++ parts.flatMap (·.params))).Follows
      (l ++ ls.flatMap fun l => Draft.text " " ++ l) := by
  induction h generalizing f l with
  | nil =>
    rw [List.map_nil, String.join_nil, String.append_empty, List.flatMap_nil, List.flatMap_nil,
      List.append_nil, List.append_nil]
    exact header
  | cons first rest ih =>
    have longer := ih (header.beside (show Draft.Parts " " by decide) first)
    rw [List.map_cons, String.join_cons, List.flatMap_cons, List.flatMap_cons]
    simp only [Fragment.beside, String.append_assoc, List.append_assoc] at longer ⊢
    exact longer

theorem follows_grouped {parts : List Fragment} {ls : List Draft}
    (h : List.Forall₂ Follows parts ls) :
    (Fragment.mk
      (Fragment.join " AND " (if 1 < parts.length then parts.map .grouped else parts)).sql
      (parts.flatMap (·.params))).Follows
      (Draft.join " AND " (if 1 < ls.length then ls.map .grouped else ls)) := by
  rw [h.length_eq]
  split
  · have several : List.Forall₂ Follows (parts.map .grouped) (ls.map .grouped) := by
      rw [List.forall₂_map_left_iff, List.forall₂_map_right_iff]
      exact h.imp fun f l follows => follows.grouped
    have whole := Follows.join (show Draft.Parts " AND " by decide) several
    rwa [Fragment.join, List.flatMap_map] at whole
  · exact .join (by decide) h

theorem follows_conditions {parts : List Fragment} {ls : List Draft}
    (h : List.Forall₂ Follows parts ls) {f : Fragment} {l : Draft} (header : f.Follows l) :
    (Fragment.mk
      (f.sql ++ if parts.isEmpty then "" else " WHERE " ++
        (Fragment.join " AND " (if 1 < parts.length then parts.map .grouped else parts)).sql)
      (f.params ++ parts.flatMap (·.params))).Follows
      (l ++ if ls.isEmpty then [] else Draft.text " WHERE " ++
        Draft.join " AND " (if 1 < ls.length then ls.map .grouped else ls)) := by
  have grouped := follows_grouped h
  cases h with
  | nil =>
    rw [List.isEmpty_nil, List.isEmpty_nil, if_pos rfl, if_pos rfl, String.append_empty,
      List.flatMap_nil, List.append_nil, List.append_nil]
    exact header
  | cons first rest =>
    have whole := header.beside (show Draft.Parts " WHERE " by decide) grouped
    rw [Fragment.beside, String.append_assoc, List.append_assoc] at whole
    exact whole

/-- **A statement follows its draft** if its joins and conditions follow theirs. -/
theorem follows {s : Select} (table : Text.isIdentifier s.table = true)
    (columns : ∀ name ∈ s.columns, Text.isIdentifier name = true) {joins conditions : List Draft}
    (joined : List.Forall₂ Follows s.joins joins)
    (filtered : List.Forall₂ Follows s.conditions conditions) :
    (Fragment.mk s.unnumbered s.build.params).Follows (s.draft joins conditions) :=
  follows_conditions filtered (follows_joins joined (.ofQuiet (quiet_header table columns)))

/-- **A statement whose placeholders are aligned** with a draft. -/
structure Aligned (s : Select) (l : Draft) : Prop where
  sql : s.build.sql.toList = l.numbered s.dialect 1
  params : s.build.params = l.values
  /-- Each value is bound to the placeholder in its place. -/
  value : ∀ (before : Draft) (v : Value) (after : Draft), l = before ++ .value v :: after →
    s.build.params[before.values.length]? = some v ∧
      s.build.sql.toList = before.numbered s.dialect 1 ++
        (s.dialect.placeholder (before.values.length + 1)).toList ++
        after.numbered s.dialect (before.values.length + 2)
  /-- Postgres counts from one, and no mark is left. -/
  counted : s.dialect = .postgres →
    Sql.placeholders none s.build.sql.toList = List.range' 1 s.build.params.length ∧
      '?' ∉ s.build.sql.toList
  /-- SQLite keeps the marks. -/
  kept : s.dialect = .sqlite → s.build.sql = s.unnumbered

theorem aligned_of_follows {s : Select} {l : Draft}
    (h : (Fragment.mk s.unnumbered s.build.params).Follows l) : s.Aligned l := by
  have marked : s.unnumbered.toList = l.marked := h.sql
  have params : s.build.params = l.values := h.params
  obtain ⟨stop, _, legible⟩ := h.legible
  have sql : s.build.sql.toList = l.numbered s.dialect 1 := by
    rw [build, Sql.numberPlaceholders, String.toList_ofList, marked]
    exact Draft.numberFrom_marked s.dialect legible 1
  refine ⟨sql, params, ?_, fun postgres => ?_, fun sqlite => ?_⟩
  · rintro before v after rfl
    rw [params, sql]
    exact (Draft.numbered_value s.dialect before after v).symm
  · rw [sql, postgres, params]
    exact ⟨Draft.placeholders_numbered legible (fun (some : none.isSome = true) => nomatch some) 1,
      Draft.not_mem_numbered legible 1⟩
  · rw [← String.toList_inj, sql, sqlite, Draft.numbered_sqlite, marked]

end Select

/-! ## The law -/

namespace CompiledQuery

theorem foldl_join (joins : List Join) (s : Select) :
    joins.foldl (fun s j => s.join ⟨j.sql, j.params⟩) s =
      { s with joins := s.joins ++ joins.map fun j => ⟨j.sql, j.params⟩ } := by
  induction joins generalizing s with
  | nil => rw [List.map_nil, List.append_nil, List.foldl_nil]
  | cons j joins ih =>
    rw [List.foldl_cons, ih, Select.join, List.map_cons, List.append_assoc]
    rfl

theorem filter_eq (q : CompiledQuery) (s : Select) :
    q.filter s = { s with
      joins := s.joins ++ q.joins.map fun j => ⟨j.sql, j.params⟩
      conditions := s.conditions ++ q.condition.toList } := by
  unfold filter
  rw [foldl_join]
  cases q.condition with
  | none => rw [Option.toList_none, List.append_nil]
  | some w => rfl

theorem whereParams_eq (q : CompiledQuery) :
    q.whereParams = q.condition.toList.flatMap (·.params) := by
  unfold whereParams
  cases q.condition with
  | none => rfl
  | some w => exact (List.append_nil _).symm

/-- **The statement with queries added one after the other.** -/
def filterAll (qs : List CompiledQuery) (s : Select) : Select := qs.foldl (fun s q => q.filter s) s

/-- Queries add their joins and their conditions in their own order. -/
theorem filterAll_eq (qs : List CompiledQuery) (s : Select) :
    filterAll qs s = { s with
      joins := s.joins ++ qs.flatMap fun q => q.joins.map fun j => ⟨j.sql, j.params⟩
      conditions := s.conditions ++ qs.flatMap (·.condition.toList) } := by
  induction qs generalizing s with
  | nil => simp only [filterAll, List.foldl_nil, List.flatMap_nil, List.append_nil]
  | cons q qs ih =>
    have rest := ih (q.filter s)
    rw [filterAll, List.foldl_cons, ← filterAll, rest, filter_eq]
    simp only [List.flatMap_cons, List.append_assoc]

/-- The values of several queries: those of all joins, then those of all conditions. -/
theorem params_filterAll (qs : List CompiledQuery) {s : Select} (joins : s.joins = [])
    (conditions : s.conditions = []) :
    (filterAll qs s).build.params =
      qs.flatMap (fun q => q.joins.flatMap (·.params)) ++ qs.flatMap (·.whereParams) := by
  rw [filterAll_eq, Select.build, joins, conditions]
  simp only [List.nil_append, List.flatMap_assoc, List.flatMap_map, whereParams_eq]

end CompiledQuery

namespace Resolution

open Fragment (Follows)

variable {r : Resolution}

theorem follows_condition (h : r.WellFormed) (d : Dialect) :
    List.Forall₂ Follows (whereFragment d r.contextFilters r.predicate).toList
      (r.draft? d).toList := by
  have conjuncts := Predicate.wellFormedAll_iff.mpr h.conjuncts
  have whole := Predicate.follows_all fun several => Predicate.follows_operands d several conjuncts
  rw [whereFragment, draft?, ← Resolution.conjuncts]
  split
  · exact .nil
  · exact .cons whole .nil

theorem follows_joins (h : r.WellFormed) :
    List.Forall₂ Follows (r.joins.map fun j => ⟨j.sql, j.params⟩) (r.joins.map Join.draft) := by
  rw [List.forall₂_map_left_iff, List.forall₂_map_right_iff]
  exact List.forall₂_same.mpr fun j mem => Join.follows (h.joins j mem)

end Resolution

namespace Compiler

open Fragment (Follows)

variable {c : Compiler}

/-- Compiled queries have resolutions that can be written. -/
theorem exists_resolutions (accepted : c.Accepted) {queries : List String}
    {qs : List CompiledQuery}
    (compiled : List.Forall₂ (fun query q => c.compile query = .ok q) queries qs) :
    ∃ rs, List.Forall₂ (fun query r => c.resolve query = .ok r) queries rs ∧
      (∀ r ∈ rs, r.WellFormed) ∧ qs = rs.map c.ofResolution := by
  induction compiled with
  | nil => exact ⟨[], .nil, fun _ mem => (nomatch mem), rfl⟩
  | cons first rest ih =>
    obtain ⟨r, resolved, rfl⟩ := compile_eq_ok.mp first
    obtain ⟨rs, resolvedAll, wellFormed, rfl⟩ := ih
    exact ⟨r :: rs, .cons resolved resolvedAll,
      List.forall_mem_cons.mpr ⟨wellFormed_resolve accepted resolved, wellFormed⟩, rfl⟩

theorem follows_flatMap {α : Type} {rs : List α} {fragments : α → List Fragment}
    {drafts : α → List Draft} (h : ∀ r ∈ rs, List.Forall₂ Follows (fragments r) (drafts r)) :
    List.Forall₂ Follows (rs.flatMap fragments) (rs.flatMap drafts) := by
  induction rs with
  | nil => exact .nil
  | cons r rs ih =>
    obtain ⟨first, rest⟩ := List.forall_mem_cons.mp h
    rw [List.flatMap_cons, List.flatMap_cons]
    exact List.rel_append first (ih rest)

/-- **Placeholders and values are aligned.** -/
theorem placeholders_aligned {settings : Settings} (accepted : ofSettings settings = .ok c)
    {queries : List String} {qs : List CompiledQuery}
    (compiled : List.Forall₂ (fun query q => c.compile query = .ok q) queries qs)
    (d : Dialect) {table : String} (table_ok : Text.isIdentifier table = true)
    {columns : List String} (columns_ok : ∀ name ∈ columns, Text.isIdentifier name = true) :
    (∀ q ∈ qs, (∀ j ∈ q.joins, j.sql.toList.count '?' = j.params.length) ∧
      ∀ w ∈ q.condition, Sql.marks false w.sql.toList = q.whereParams.length) ∧
    ∃ rs, List.Forall₂ (fun query r => c.resolve query = .ok r) queries rs ∧
      let s := CompiledQuery.filterAll qs ⟨d, table, columns, [], []⟩
      s.build.params =
        qs.flatMap (fun q => q.joins.flatMap (·.params)) ++ qs.flatMap (·.whereParams) ∧
      (∀ q, qs = [q] → s.build.params = q.params) ∧
      s.Aligned (s.draft (rs.flatMap fun r => r.joins.map Join.draft)
        (rs.flatMap fun r => (r.draft? c.dialect).toList)) := by
  obtain ⟨rs, resolved, wellFormed, rfl⟩ :=
    exists_resolutions (accepted_of_ofSettings accepted) compiled
  have joined : List.Forall₂ Follows
      ((rs.map c.ofResolution).flatMap fun q => q.joins.map fun j => ⟨j.sql, j.params⟩)
      (rs.flatMap fun r => r.joins.map Join.draft) := by
    rw [List.flatMap_map]
    exact follows_flatMap fun r mem => Resolution.follows_joins (wellFormed r mem)
  have filtered : List.Forall₂ Follows
      ((rs.map c.ofResolution).flatMap (·.condition.toList))
      (rs.flatMap fun r => (r.draft? c.dialect).toList) := by
    rw [List.flatMap_map]
    exact follows_flatMap fun r mem => Resolution.follows_condition (wellFormed r mem) c.dialect
  have params := CompiledQuery.params_filterAll (rs.map c.ofResolution)
    (s := ⟨d, table, columns, [], []⟩) rfl rfl
  refine ⟨fun q mem => ?_, rs, resolved, params, fun q one => ?_, ?_⟩
  · obtain ⟨r, resolvedFrom, rfl⟩ := List.mem_map.mp mem
    have written_ok := wellFormed r resolvedFrom
    refine ⟨fun j stored => (Join.follows (written_ok.joins j stored)).count, fun w written => ?_⟩
    have follows := Resolution.follows_condition written_ok c.dialect
    change List.Forall₂ Follows (c.ofResolution r).condition.toList _ at follows
    rw [Option.mem_def] at written
    rw [written, Option.toList_some] at follows
    obtain ⟨l, _, first, _⟩ := List.forall₂_cons_left_iff.mp follows
    rw [CompiledQuery.whereParams, written]
    exact first.marks
  · rw [params, one, List.flatMap_singleton, List.flatMap_singleton]
    rfl
  · refine Select.aligned_of_follows ?_
    rw [CompiledQuery.filterAll_eq]
    exact Select.follows table_ok columns_ok joined filtered

/-- Runs with a small loss on one subset, or of one of two owners. -/
def lossOrOwner : String :=
  "run.metrics['loss', \x7b'subset': 'val'\x7d].last < 1 or run.tags['owner'] in ['a', 'b']"

/-- Two queries in one statement, with ten values between them. -/
theorem placeholders_aligned_lossOrOwner :
    ∃ c q q', ofSettings Settings.standard = .ok c ∧ c.compile lossOrOwner = .ok q ∧
      c.compile "run.active" = .ok q' ∧
      let s := CompiledQuery.filterAll [q, q'] ⟨.postgres, "runs", ["run_uuid"], [], []⟩
      s.build.params = [.text "loss", .text "owner", .text "\x7bsubset\x7d", .text "val", .int 1,
        .text "a", .text "b", .text "deleted", .text "RUNNING", .text "deleted"] ∧
      ∃ rs, List.Forall₂ (fun query r => c.resolve query = .ok r) [lossOrOwner, "run.active"] rs ∧
        s.Aligned (s.draft (rs.flatMap fun r => r.joins.map Join.draft)
          (rs.flatMap fun r => (r.draft? c.dialect).toList)) := by
  have bound : ((ofSettings Settings.standard).toOption.bind fun c =>
      (c.compile lossOrOwner).toOption.bind fun q => (c.compile "run.active").toOption.map fun q' =>
        [q, q'].flatMap (fun q => q.joins.flatMap (·.params)) ++ [q, q'].flatMap (·.whereParams)) =
          some [.text "loss", .text "owner", .text "\x7bsubset\x7d", .text "val", .int 1, .text "a",
            .text "b", .text "deleted", .text "RUNNING", .text "deleted"] := by
    decide +kernel
  obtain ⟨c, accepted, bound⟩ := Option.bind_eq_some_iff.mp bound
  obtain ⟨q, first, bound⟩ := Option.bind_eq_some_iff.mp bound
  obtain ⟨q', second, bound⟩ := Option.map_eq_some_iff.mp bound
  rw [toOption_eq_some] at accepted first second
  obtain ⟨_, rs, resolved, params, _, aligned⟩ := placeholders_aligned accepted
    (.cons first (.cons second .nil)) .postgres (show Text.isIdentifier "runs" = true by decide)
    (show ∀ name ∈ ["run_uuid"], Text.isIdentifier name = true by decide)
  exact ⟨c, q, q', accepted, first, second, params.trans bound, rs, resolved, aligned⟩

end Compiler

end RunFilter
