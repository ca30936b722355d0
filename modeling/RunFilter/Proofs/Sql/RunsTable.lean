import RunFilter.Proofs.Joins.Scope
import RunFilter.Proofs.Sql.Qualifiers

/-!
# One name for the runs

A statement selects from the table of the runs, and names it again wherever a column of a run is
meant. Behind `FROM` and in front of plain columns the name stands in quotes. The conditions of
joins and the duration of a run have it bare, so that Postgres reads it in lower case there.

**The law** (`Compiler.runs_named_alike_iff`): in the statement of a query, every qualifier that is
spelled like the table of the runs denotes that table exactly if the name is in lower case, or the
query joins nothing and no duration is written. The check of table names lets capital letters pass.

Under such a name (`capital_runs_folded`) the statement selects from one table and joins the
metrics, tags or parameters of the runs in another.

That a join names the runs is known from its scope (`Join.ScopedAt`): the first one cannot select a
context, which stands behind its metric. That a duration is one of the runs is known from the
catalogue and carried along the check of a filter and the reading off a table of joins.
-/

set_option autoImplicit false

namespace RunFilter

open Sql (Name)

/-! ## Durations -/

/-- A column that is a duration only of the runs. -/
def Column.TimesRuns (tables : Dictionary) : Column → Prop
  | .expression sql => ∃ runs, tables.get? "runs" = some runs ∧
      sql = "(" ++ runs ++ ".end_time - " ++ runs ++ ".start_time) / 1000"
  | .field _ _ | .document _ _ _ => True

/-- An attribute that is a duration only of the runs. -/
def Reference.TimesRuns (tables : Dictionary) (ref : Reference) (part : Part) : Prop :=
  part = .duration → ∃ runs, tables.get? "runs" = some runs ∧ ref.origin = .table runs

/-- Only runs have a duration. -/
theorem Entity.eq_run_of_duration {entity : Entity} {field : String} {entry : Attribute}
    (listed : entity.attribute? field = some entry) (kind : entry.kind = .duration) :
    entity = .run := by
  have all : ∀ entry ∈ entity.attributes, entry.kind = .duration → entity = .run := by
    cases entity <;> decide
  exact all entry (List.mem_of_find?_eq_some listed) kind

theorem AttributePath.timesRuns_of_operand {tables : Dictionary} {p : AttributePath}
    {ref : Reference} {part : Part} (found : p.operand tables = .ok (.column ref part)) :
    ref.TimesRuns tables part := by
  rintro rfl
  obtain ⟨entity, table, entry, _, available, listed, found⟩ := operand_eq_ok.mp found
  cases kind : entry.kind with
  | duration =>
    rw [kind] at found
    obtain ⟨_, _, found⟩ := bind_eq_ok.mp found
    cases found
    obtain rfl := Entity.eq_run_of_duration listed kind
    exact ⟨table, available, rfl⟩
  | metricSeries =>
    rw [kind] at found
    obtain ⟨_, _, column, _, same⟩ := series_eq_ok.mp found
    cases column <;> cases same
  | column | flag | keyed | firstStep =>
    rw [kind] at found
    obtain ⟨_, _, found⟩ := bind_eq_ok.mp found
    cases found
  | experimentName | context =>
    rw [kind] at found
    obtain ⟨_, _, found⟩ := bind_eq_ok.mp found
    split at found <;> cases found

namespace Condition

mutual
/-- **A condition whose durations are those of the runs.** -/
def TimesRuns (tables : Dictionary) : Condition → Prop
  | .test ref part _ => ref.TimesRuns tables part
  | .decided _ _ => True
  | .all parts | .any parts => TimesRunsAll tables parts
  | .negation part => part.TimesRuns tables
/-- All conditions are such. -/
def TimesRunsAll (tables : Dictionary) : List Condition → Prop
  | [] => True
  | c :: cs => c.TimesRuns tables ∧ TimesRunsAll tables cs
end

end Condition

namespace Filter

variable {tables : Dictionary}

theorem timesRuns_of_testsOperand {c : Condition} (h : TestsOperand tables c) :
    c.TimesRuns tables := by
  obtain ⟨_, _, denotes, tests⟩ := h
  cases tests with
  | column ref part =>
    cases denotes with
    | path found => exact AttributePath.timesRuns_of_operand found
  | flag => nofun
  | step => trivial

mutual
/-- **Checked filters ask for durations of the runs only.** -/
theorem timesRuns_condition : ∀ {f : Filter} {c : Condition}, f.condition tables = .ok c →
    c.TimesRuns tables
  | .boolean op operands, c, found => by
    obtain ⟨parts, checked, found⟩ := bind_eq_ok.mp found
    have times := timesRunsAll_conditions checked
    obtain ⟨rfl, rfl⟩ | ⟨rfl, rfl⟩ | ⟨rfl, part, rfl, rfl⟩ := combine_eq_ok.mp found
    · exact times
    · exact times
    · exact times.1
  | .comparison .., _, found => timesRuns_of_testsOperand (testsOperand_comparisonCondition found)
  | .call .., _, found => timesRuns_of_testsOperand (testsOperand_callCondition found)
  | .attribute _, _, found => timesRuns_of_testsOperand (testsOperand_attributeCondition found)
  | .literal _, _, found | .list _, _, found => nomatch found
theorem timesRunsAll_conditions : ∀ {fs : List Filter} {cs : List Condition},
    conditions tables fs = .ok cs → Condition.TimesRunsAll tables cs
  | [], cs, found => by
    cases found
    trivial
  | f :: fs, cs, found => by
    obtain ⟨first, checked, found⟩ := bind_eq_ok.mp found
    obtain ⟨rest, checked', found⟩ := bind_eq_ok.mp found
    cases found
    exact ⟨timesRuns_condition checked, timesRunsAll_conditions checked'⟩
end

end Filter

/-! ## Columns that are written -/

namespace Predicate

theorem mem_writtenColumnsAll {ps : List Predicate} {column : Column} :
    column ∈ writtenColumnsAll ps ↔ ∃ p ∈ ps, column ∈ p.writtenColumns := by
  rw [writtenColumnsAll_eq_flatMap, List.mem_flatMap]

/-- A test writes at most its own column. -/
theorem eq_of_mem_writtenColumns {column column' : Column} {asked : Test}
    (mem : column' ∈ (test column asked).writtenColumns) : column' = column := by
  rw [writtenColumns] at mem
  split at mem
  · exact List.mem_singleton.mp mem
  · cases mem

end Predicate

/-- The tests of a context are tests of documents. -/
theorem Dictionary.timesRuns_tests {tables context : Dictionary} {aliasName : String} :
    ∀ p ∈ context.tests aliasName, ∀ column ∈ p.writtenColumns, column.TimesRuns tables := by
  intro p tested column mem
  obtain ⟨entry, _, rfl⟩ := List.mem_map.mp tested
  rw [Predicate.eq_of_mem_writtenColumns mem]
  trivial

namespace Condition

variable {tables : Dictionary} {t : JoinTable}

theorem timesRuns_guarded {origin : Origin} {leaf : Predicate}
    (own : ∀ column ∈ leaf.writtenColumns, column.TimesRuns tables) :
    ∀ column ∈ (t.guarded origin leaf).writtenColumns, column.TimesRuns tables := by
  unfold JoinTable.guarded
  split
  · intro column mem
    obtain ⟨p, mem, written⟩ := Predicate.mem_writtenColumnsAll.mp mem
    rcases List.mem_append.mp mem with mem | mem
    · unfold JoinTable.ownTests at mem
      split at mem
      · exact Dictionary.timesRuns_tests p mem column written
      · cases mem
    · exact own column (List.mem_singleton.mp mem ▸ written)
  · exact own

mutual
/-- **Durations that are read off a table** are those of the runs. -/
theorem timesRuns_readOff : ∀ {c : Condition} {bare : Bool}, c.TimesRuns tables →
    ∀ column ∈ (c.readOff t bare).writtenColumns, column.TimesRuns tables
  | .test ref part asked, bare, times => by
    have leaf : ∀ column ∈
        (Predicate.test (part.columnIn (t.tableOf ref.origin)) asked).writtenColumns,
        column.TimesRuns tables := by
      intro column mem
      rw [Predicate.eq_of_mem_writtenColumns mem]
      cases part with
      | column | document => trivial
      | duration =>
        -- the origin is a table, so the column names it and no join
        obtain ⟨runs, configured, origin⟩ := times rfl
        rw [origin]
        exact ⟨runs, configured, rfl⟩
    simp only [readOff]
    split
    · exact leaf
    · exact timesRuns_guarded leaf
  | .decided ref answer, bare, _ => by
    have leaf : ∀ column ∈ (Predicate.constant answer).writtenColumns,
        column.TimesRuns tables := nofun
    simp only [readOff]
    split
    · exact leaf
    · exact timesRuns_guarded leaf
  | .all parts, bare, times => @timesRuns_readOffAll parts bare times
  | .any parts, _, times => @timesRuns_readOffAll parts false times
  | .negation part, bare, times => timesRuns_readOff (c := part) times
theorem timesRuns_readOffAll : ∀ {cs : List Condition} {bare : Bool}, TimesRunsAll tables cs →
    ∀ column ∈ Predicate.writtenColumnsAll (readOffAll t bare cs), column.TimesRuns tables
  | [], _, _ => nofun
  | _ :: _, _, times =>
    List.forall_mem_append.mpr ⟨timesRuns_readOff times.1, timesRuns_readOffAll times.2⟩
end

end Condition

namespace Resolution

variable {tables : Dictionary} {r : Resolution}

/-- **The columns that a resolution writes**, from left to right. -/
def writtenColumns (r : Resolution) : List Column := r.conjuncts.flatMap Predicate.writtenColumns

theorem timesRuns_ofFilter {filter : Option Filter} (resolved : ofFilter tables filter = .ok r) :
    ∀ column ∈ r.writtenColumns, column.TimesRuns tables := by
  intro column mem
  obtain ⟨p, mem, written⟩ := List.mem_flatMap.mp mem
  cases filter with
  | none =>
    cases resolved
    cases mem
  | some f =>
    obtain ⟨c, checked, rfl⟩ := ofFilter_eq_ok.mp resolved
    rcases List.mem_append.mp mem with mem | mem
    · obtain ⟨⟨j, index⟩, _, mem⟩ := List.mem_flatMap.mp mem
      dsimp only at mem
      split at mem
      · exact Dictionary.timesRuns_tests p mem column written
      · cases mem
    · rw [predicate_ofCondition, Option.toList_some, List.mem_singleton] at mem
      rw [mem] at written
      exact Condition.timesRuns_readOff (Filter.timesRuns_condition checked) column written

/-- Where anything is joined, the first join is bound to a key, and names the runs. -/
theorem exists_keyed (known : r.WellScoped tables) (joined : r.joins ≠ []) :
    ∃ j ∈ r.joins, ∃ runs, tables.get? "runs" = some runs ∧
      j.condition = Join.keyCondition runs j.aliasName := by
  cases joins : r.joins with
  | nil => exact absurd joins joined
  | cons j rest =>
    have first : r.joins[0]? = some j := by rw [joins]; rfl
    -- a context is selected by a join in front of its own, and there is none
    cases known.joins 0 j first with
    | keyed kind aliasName configured condition =>
      exact ⟨j, List.mem_cons_self, _, configured, condition⟩
    | context table aliasName before => exact absurd before (Nat.not_lt_zero _)

end Resolution

/-! ## The law -/

/-- Whether a column is an expression with names of its own. -/
def Column.isExpression : Column → Bool
  | .expression _ => true
  | .field _ _ | .document _ _ _ => false

namespace Sql.Name

/-- **A name that denotes the table that it is spelled like**, if it is spelled like this one. -/
def Denotes (table : String) (name : Name) : Prop :=
  name.spelling = table.toList → name.denoted = table.toList

theorem denotes_bare_iff {table : String} :
    Denotes table (.bare table.toList) ↔ Text.lower table = table := by
  rw [Text.lower, ← String.toList_inj, String.toList_ofList]
  exact ⟨fun h => h rfl, fun same _ => same⟩

/-- A name in quotes denotes what it is spelled like. -/
theorem denotes_quoted (table : String) (characters : List Char) :
    Denotes table (.quoted characters) := id

theorem denotes_of_lower {table : String} (same : Text.lower table = table) (name : Name) :
    name.Denotes table := by
  cases name with
  | bare word =>
    intro spelled
    change word = table.toList at spelled
    rw [spelled]
    exact denotes_bare_iff.mpr same rfl
  | quoted characters => exact denotes_quoted table characters

end Sql.Name

namespace Resolution

variable {tables : Dictionary} {r : Resolution} {runs : String}

/-- **The qualifiers of a resolution**: those of its joins and of the columns that it writes. -/
def qualifiers (r : Resolution) : List Name :=
  r.joins.flatMap Join.qualifiers ++ r.conjuncts.flatMap Predicate.qualifiers

theorem mem_qualifiers {name : Name} : name ∈ r.qualifiers ↔
    (∃ j ∈ r.joins, name ∈ j.qualifiers) ∨ ∃ column ∈ r.writtenColumns, name ∈ column.qualifiers := by
  simp only [qualifiers, writtenColumns, Predicate.qualifiers, List.mem_append, List.mem_flatMap]
  constructor
  · rintro (joined | ⟨p, mem, column, written, named⟩)
    · exact .inl joined
    · exact .inr ⟨column, ⟨p, mem, written⟩, named⟩
  · rintro (joined | ⟨column, ⟨p, mem, written⟩, named⟩)
    · exact .inl joined
    · exact .inr ⟨p, mem, column, written, named⟩

/-- A join names the runs bare. -/
theorem bare_mem_of_joins (plain : r.WellFormed) (known : r.WellScoped tables)
    (configured : tables.get? "runs" = some runs) (runs_ok : Text.isIdentifier runs = true)
    (joined : r.joins ≠ []) : .bare runs.toList ∈ r.qualifiers := by
  obtain ⟨j, stored, _, named, condition⟩ := exists_keyed known joined
  obtain rfl := Option.some.inj (configured.symm.trans named)
  refine mem_qualifiers.mpr (.inl ⟨j, stored, ?_⟩)
  rw [Join.qualifiers_of_key (plain.joins j stored) runs_ok condition]
  exact List.mem_cons_self

/-- A duration names the runs bare. -/
theorem bare_mem_of_expression (times : ∀ column ∈ r.writtenColumns, column.TimesRuns tables)
    (configured : tables.get? "runs" = some runs) (runs_ok : Text.isIdentifier runs = true)
    {column : Column} (written : column ∈ r.writtenColumns)
    (expression : column.isExpression = true) : .bare runs.toList ∈ r.qualifiers := by
  refine mem_qualifiers.mpr (.inr ⟨column, written, ?_⟩)
  cases column with
  | field | document => cases expression
  | expression sql =>
    obtain ⟨_, named, rfl⟩ := times _ written
    obtain rfl := Option.some.inj (configured.symm.trans named)
    rw [Column.qualifiers_duration runs_ok]
    exact List.mem_cons_self

/-- **All qualifiers denote the runs that are spelled so**, exactly if no bare name is written or it
is in lower case. -/
theorem denotes_qualifiers_iff (plain : r.WellFormed) (known : r.WellScoped tables)
    (times : ∀ column ∈ r.writtenColumns, column.TimesRuns tables)
    (configured : tables.get? "runs" = some runs) (runs_ok : Text.isIdentifier runs = true) :
    (∀ name ∈ r.qualifiers, name.Denotes runs) ↔ Text.lower runs = runs ∨
      r.joins = [] ∧ ∀ column ∈ r.writtenColumns, column.isExpression = false := by
  constructor
  · intro alike
    by_cases same : Text.lower runs = runs
    · exact .inl same
    · have none : .bare runs.toList ∉ r.qualifiers :=
        fun mem => same (Sql.Name.denotes_bare_iff.mp (alike _ mem))
      refine .inr ⟨?_, fun column written => ?_⟩
      · by_contra joined
        exact none (bare_mem_of_joins plain known configured runs_ok joined)
      · by_contra expression
        exact none (bare_mem_of_expression times configured runs_ok written
          (Bool.not_eq_false _ ▸ expression))
  · rintro (same | ⟨joins, fields⟩) name mem
    · exact Sql.Name.denotes_of_lower same name
    · rcases mem_qualifiers.mp mem with ⟨j, stored, _⟩ | ⟨column, written, named⟩
      · rw [joins] at stored
        cases stored
      · cases column with
        | field | document =>
          rw [List.mem_singleton.mp named]
          exact Sql.Name.denotes_quoted runs _
        | expression sql => cases fields _ written

end Resolution

namespace Compiler

variable {c : Compiler} {settings : Settings} {query : String} {q : CompiledQuery}
  {columns : List String}

/-- A compiler is made only where the runs have a table. -/
theorem get?_runs (accepted : ofSettings settings = .ok c) :
    c.settings.tables.get? "runs" = some c.runsTable := by
  obtain ⟨dialect, default, _, valid, _, _, rfl⟩ := ofSettings_eq_ok.mp accepted
  cases configured : settings.tables.get? "runs" with
  | none =>
    rw [Settings.validateTables, configured] at valid
    cases valid
  | some runs => rw [runsTable, configured, Option.getD_some]

/-- What is resolved for a query is resolved for a filter. -/
theorem exists_ofFilter {r : Resolution} (resolved : c.resolve query = .ok r) :
    ∃ filter, Resolution.ofFilter c.settings.tables filter = .ok r := by
  obtain ⟨read, _, found⟩ := bind_eq_ok.mp resolved
  exact ⟨c.withDefault query read, mapError_eq_ok.mp found⟩

/-- **The runs under one name.** The statement of a query, for Postgres and with any columns that
are identifiers, selects from the table of the runs in quotes. The names in front of its dots that
are spelled like this table denote it, exactly if it is spelled in lower case, or nothing is joined
and no duration is written. -/
theorem runs_named_alike_iff (accepted : ofSettings settings = .ok c)
    (postgres : c.dialect = .postgres) (compiled : c.compile query = .ok q)
    (columns_ok : ∀ name ∈ columns, Text.isIdentifier name = true) :
    ∃ r, c.resolve query = .ok r ∧ q = c.ofResolution r ∧
      let s := q.filter ⟨.postgres, c.runsTable, columns, [], []⟩
      (∃ behind, s.build.sql = "SELECT " ++ s.columnList ++ " FROM " ++
        Sql.quoteIdentifier c.runsTable ++ behind) ∧
      ((∀ name ∈ Sql.qualifiers s.build.sql, name.Denotes c.runsTable) ↔
        Text.lower c.runsTable = c.runsTable ∨
          r.joins = [] ∧ ∀ column ∈ r.writtenColumns, column.isExpression = false) := by
  obtain ⟨r, resolved, rfl⟩ := compile_eq_ok.mp compiled
  have checked := accepted_of_ofSettings accepted
  have configured := get?_runs accepted
  have runs_ok := checked.tables.get? configured
  obtain ⟨filter, found⟩ := exists_ofFilter resolved
  obtain ⟨qualifiers, begins⟩ := qualifiers_build checked postgres resolved runs_ok columns_ok
  refine ⟨r, resolved, rfl, ?_⟩
  intro s
  have table : s.table = c.runsTable := by
    change ((c.ofResolution r).filter _).table = _
    rw [CompiledQuery.filter_eq]
  constructor
  · rw [← table]
    exact begins
  · rw [qualifiers]
    exact Resolution.denotes_qualifiers_iff (wellFormed_resolve checked resolved)
      (Resolution.wellScoped_ofFilter found) (Resolution.timesRuns_ofFilter found) configured
      runs_ok

/-- Long runs with a small loss. -/
def lossOfLongRuns : String := "run.metrics['loss'].last < 1 and run.duration > 60"

/-- Under the usual name of the table, a join and a duration name the runs as `FROM` does. -/
theorem runs_named_alike_lossOfLongRuns :
    ∃ c q, ofSettings Settings.standard = .ok c ∧ c.compile lossOfLongRuns = .ok q ∧
      let s := q.filter ⟨.postgres, "runs", ["run_uuid"], [], []⟩
      (∃ behind, s.build.sql =
        "SELECT " ++ s.columnList ++ " FROM " ++ Sql.quoteIdentifier "runs" ++ behind) ∧
        ∀ name ∈ Sql.qualifiers s.build.sql, name.Denotes "runs" := by
  have made : ((ofSettings Settings.standard).toOption.bind fun c =>
      (c.compile lossOfLongRuns).toOption.map fun _ => (c.dialect, c.runsTable)) =
        some (.postgres, "runs") := by
    decide +kernel
  obtain ⟨c, accepted, made⟩ := Option.bind_eq_some_iff.mp made
  obtain ⟨q, compiled, made⟩ := Option.map_eq_some_iff.mp made
  rw [toOption_eq_some] at accepted compiled
  obtain ⟨postgres, runs⟩ := Prod.mk.inj made
  obtain ⟨r, _, _, begins, alike⟩ := runs_named_alike_iff accepted postgres compiled
    (show ∀ name ∈ ["run_uuid"], Text.isIdentifier name = true by decide)
  rw [runs] at begins alike
  exact ⟨c, q, accepted, compiled, begins, alike.mpr (.inl (by decide))⟩

/-- The usual settings with a capital letter in the name of one table. -/
def capitalRuns : Settings :=
  { Settings.standard with tables := .ofList [("runs", "Runs")] }

/-- **A capital letter parts the runs in two.** `FROM` and the default filter name the table `Runs`,
and the join of a tag names the table `runs`. -/
theorem capital_runs_folded :
    ∃ c q, ofSettings capitalRuns = .ok c ∧ c.dialect = .postgres ∧ c.runsTable = "Runs" ∧
      c.compile "run.tags.owner == 'ada'" = .ok q ∧
      let s := q.filter ⟨.postgres, c.runsTable, ["run_uuid"], [], []⟩
      s.build.sql = "SELECT \"run_uuid\" FROM \"Runs\" LEFT JOIN tags tags_0 " ++
        "ON Runs.run_uuid = tags_0.run_uuid AND tags_0.key = $1 " ++
        "WHERE \"tags_0\".\"value\" = $2 AND \"Runs\".\"lifecycle_stage\" <> $3" ∧
      ∃ bare ∈ Sql.qualifiers s.build.sql, ∃ quoted ∈ Sql.qualifiers s.build.sql,
        bare.spelling = "Runs".toList ∧ quoted.spelling = "Runs".toList ∧
        bare.denoted = "runs".toList ∧ quoted.denoted = "Runs".toList := by
  have made : ((ofSettings capitalRuns).toOption.bind fun c =>
      (c.compile "run.tags.owner == 'ada'").toOption.map fun q =>
        (c.dialect, c.runsTable,
          (q.filter ⟨.postgres, c.runsTable, ["run_uuid"], [], []⟩).build.sql)) =
      some (.postgres, "Runs", "SELECT \"run_uuid\" FROM \"Runs\" LEFT JOIN tags tags_0 " ++
        "ON Runs.run_uuid = tags_0.run_uuid AND tags_0.key = $1 " ++
        "WHERE \"tags_0\".\"value\" = $2 AND \"Runs\".\"lifecycle_stage\" <> $3") := by
    decide +kernel
  obtain ⟨c, accepted, made⟩ := Option.bind_eq_some_iff.mp made
  obtain ⟨q, compiled, made⟩ := Option.map_eq_some_iff.mp made
  rw [toOption_eq_some] at accepted compiled
  simp only [Prod.mk.injEq] at made
  obtain ⟨postgres, runs, sql⟩ := made
  refine ⟨c, q, accepted, postgres, runs, compiled, sql, ?_⟩
  have named : Sql.qualifiers (q.filter ⟨.postgres, c.runsTable, ["run_uuid"], [], []⟩).build.sql =
      [.bare "Runs".toList, .bare "tags_0".toList, .bare "tags_0".toList, .quoted "tags_0".toList,
        .quoted "Runs".toList] := by
    rw [sql]
    decide +kernel
  rw [named]
  exact ⟨.bare "Runs".toList, by simp, .quoted "Runs".toList, by simp, rfl, rfl, by decide, rfl⟩

end Compiler

end RunFilter
