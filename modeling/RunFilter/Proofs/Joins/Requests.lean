import Mathlib.Data.List.Induction
import RunFilter.Proofs.Joins.Scope

/-!
# Requests for joins

Whoever plans a filter holds indices and nothing else: a column is named by the index of its join,
a context is hoisted by the index of the join that selects it. So an index has to stay what it was
however many joins are asked for behind it, and whatever those who ask put into them.

`JoinTable.served` is the table after a list of requests. It only grows (`served_le`), so an answer
can be read off any later table (`answer_eq_iff`), and its joins are one for each signature, in the
order in which the signatures were first asked for (`signatures_served`).

A table finds a signature by search. `IndexedJoins` keeps beside the joins a map from signatures to
places, and says in which order the two are written. The map is the inverse of the array after any
requests (`IndexedJoins.Mirrors`), so the two tables answer alike, and a join is built exactly when
its signature is new.
-/

set_option autoImplicit false

namespace RunFilter

/-- A request for the join with a signature, and what builds that join if there is none yet. A
request is served once, so whatever `build` reads elsewhere is part of it. -/
structure JoinRequest where
  signature : String
  build : Nat → Join

/-! ## The table after requests -/

/-- A value at the end of a list counts only if it is new there. -/
theorem eraseDups_concat {α : Type} [DecidableEq α] (xs : List α) (x : α) :
    (xs ++ [x]).eraseDups = xs.eraseDups ++ if x ∈ xs then [] else [x] := by
  rw [List.eraseDups_append, List.removeAll, List.filter_singleton]
  by_cases old : x ∈ xs
  · rw [if_pos old, List.elem_eq_true_of_mem old]
    rfl
  · rw [if_neg old, Bool.eq_false_iff.mpr (mt List.mem_of_elem_eq_true old)]
    rfl

namespace JoinTable

variable {t : JoinTable} {signature : String} {index : Nat}

/-- **The table after requests**, served one after the other on a table without joins. -/
def served (requests : List JoinRequest) : JoinTable :=
  requests.foldl (fun t r => (t.allocate r.signature r.build).2) empty

theorem served_concat (requests : List JoinRequest) (r : JoinRequest) :
    served (requests ++ [r]) = ((served requests).allocate r.signature r.build).2 := by
  rw [served, List.foldl_append]
  rfl

/-- A signature has no index exactly if no join has it. -/
theorem index?_eq_none_iff :
    t.index? signature = none ↔ signature ∉ t.joins.map (·.signature) := by
  simp only [index?, List.findIdx?_eq_none_iff, decide_eq_false_iff_not, List.mem_map, not_exists,
    not_and]

/-- **What a request does to the joins**: nothing if its signature is there, and otherwise one join
is put behind them. -/
theorem joins_allocate (t : JoinTable) (r : JoinRequest) :
    (t.allocate r.signature r.build).2.joins = t.joins ++
      if r.signature ∈ t.joins.map (·.signature) then []
      else [{ r.build t.joins.length with signature := r.signature }] := by
  by_cases old : r.signature ∈ t.joins.map (·.signature)
  · obtain ⟨index, found⟩ :=
      Option.ne_none_iff_exists'.mp (mt index?_eq_none_iff.mp (not_not.mpr old))
    rw [if_pos old, List.append_nil, allocate, found]
  · rw [if_neg old, allocate, index?_eq_none_iff.mpr old]

/-- A request gives its signature an index and leaves those of all others. -/
theorem index?_allocate (t : JoinTable) (r : JoinRequest) (signature : String) :
    (t.allocate r.signature r.build).2.index? signature =
      if r.signature = signature then some (t.allocate r.signature r.build).1
      else t.index? signature := by
  obtain ⟨le, found, _⟩ := t.allocate_spec r.signature r.build
  by_cases same : r.signature = signature
  · rw [if_pos same, ← same, found]
  · rw [if_neg same]
    cases known : t.index? signature with
    | some index => exact index?_of_le le known
    | none =>
      rw [index?_eq_none_iff] at known ⊢
      rw [joins_allocate, List.map_append, List.mem_append, not_or]
      refine ⟨known, fun mem => ?_⟩
      split at mem
      · cases mem
      · exact same (List.mem_singleton.mp mem).symm

/-- **The signatures of a table**: those that were asked for, in the order in which each was asked
for first. -/
theorem signatures_served (requests : List JoinRequest) :
    (served requests).joins.map (·.signature) = (requests.map (·.signature)).eraseDups := by
  induction requests using List.reverseRecOn with
  | nil => rfl
  | append_singleton requests r ih =>
    rw [served_concat, joins_allocate, List.map_append, ih, List.map_append, List.map_singleton,
      eraseDups_concat]
    congr 1
    by_cases old : r.signature ∈ requests.map (·.signature)
    · rw [if_pos (List.mem_eraseDups.mpr old), if_pos old, List.map_nil]
    · rw [if_neg (mt List.mem_eraseDups.mp old), if_neg old, List.map_singleton]

theorem mem_signatures_served (requests : List JoinRequest) :
    signature ∈ (served requests).joins.map (·.signature) ↔
      signature ∈ requests.map (·.signature) := by
  rw [signatures_served, List.mem_eraseDups]

theorem nodup_served (requests : List JoinRequest) :
    ((served requests).joins.map (·.signature)).Nodup := by
  induction requests using List.reverseRecOn with
  | nil => exact List.nodup_nil
  | append_singleton requests r ih =>
    rw [served_concat]
    exact nodup_allocate ih r.signature r.build

/-- A table only grows while requests are served. -/
theorem served_le (before after : List JoinRequest) : served before ≤ served (before ++ after) := by
  induction after using List.reverseRecOn with
  | nil =>
    rw [List.append_nil]
    exact le_refl _
  | append_singleton after r ih =>
    rw [← List.append_assoc, served_concat]
    exact le_trans ih (allocate_spec _ r.signature r.build).1

/-- In a table without two joins of one signature, the index of a signature is the one place where
a join with it stands. -/
theorem index?_eq_some_iff (nodup : (t.joins.map (·.signature)).Nodup) :
    t.index? signature = some index ↔
      ∃ j, t.joins[index]? = some j ∧ j.signature = signature := by
  refine ⟨get?_of_index?, ?_⟩
  rintro ⟨j, stored, rfl⟩
  have bound : index < t.joins.length := (List.getElem?_eq_some_iff.mp stored).1
  cases found : t.index? j.signature with
  | none =>
    have mem : j.signature ∈ t.joins.map (·.signature) :=
      List.mem_map_of_mem (List.mem_of_getElem? stored)
    exact absurd mem (index?_eq_none_iff.mp found)
  | some place =>
    obtain ⟨k, stored', same⟩ := get?_of_index? found
    have bound' : place < t.joins.length := (List.getElem?_eq_some_iff.mp stored').1
    have equal : (t.joins.map (·.signature))[place]? = (t.joins.map (·.signature))[index]? := by
      rw [List.getElem?_map, List.getElem?_map, stored, ← get?, stored', Option.map_some,
        Option.map_some, same]
    exact congrArg some ((List.getElem?_inj (by simpa using bound') nodup).mp equal)

/-- Two signatures of a table with one index are one. -/
theorem index?_inj {other : String} (found : t.index? signature = some index)
    (found' : t.index? other = some index) : signature = other := by
  obtain ⟨j, stored, rfl⟩ := get?_of_index? found
  obtain ⟨k, stored', rfl⟩ := get?_of_index? found'
  rw [Option.some.inj (stored.symm.trans stored')]

/-- What a request leaves is there in every later table. -/
theorem allocate_le_served (before after : List JoinRequest) (r : JoinRequest) :
    ((served before).allocate r.signature r.build).2 ≤ served (before ++ r :: after) := by
  rw [List.append_cons, ← served_concat]
  exact served_le _ after

/-- **Answers tell signatures.** A later request has the answer of an earlier one exactly if it has
its signature. -/
theorem answer_eq_iff (before between : List JoinRequest) (r r' : JoinRequest) :
    ((served (before ++ r :: between)).allocate r'.signature r'.build).1 =
        ((served before).allocate r.signature r.build).1 ↔ r'.signature = r.signature := by
  have kept : (served (before ++ r :: between)).index? r.signature =
      some ((served before).allocate r.signature r.build).1 :=
    index?_of_le (allocate_le_served before between r) (allocate_spec _ r.signature r.build).2.1
  constructor
  · intro same
    obtain ⟨le, found, _⟩ :=
      (served (before ++ r :: between)).allocate_spec r'.signature r'.build
    exact index?_inj (same ▸ found) (index?_of_le le kept)
  · intro same
    rw [same, allocate, kept]

end JoinTable

/-! ## The table with a map -/

/-- **Joins with a map to their places.** The joins stand in an array, and the map has the place of
each under its signature. -/
structure IndexedJoins where
  joins : Array Join
  places : Std.HashMap String Nat

namespace IndexedJoins

/-- No joins. -/
def empty : IndexedJoins := ⟨#[], ∅⟩

/-- **The place of the join with a signature.** If the map has none, `build` is called for the next
free place, and the join is put into the array and its place into the map. What `build` does beside
building the join is done when it is called. -/
def allocate {m : Type → Type} [Monad m] (a : IndexedJoins) (signature : String)
    (build : Nat → m Join) : m (Nat × IndexedJoins) :=
  match a.places[signature]? with
  | some index => pure (index, a)
  | none => do
    let index := a.joins.size
    let join ← build index
    pure (index, ⟨a.joins.push { join with signature }, a.places.insert signature index⟩)

end IndexedJoins

/-- The build of a request, with a note of the index that it was called for. -/
def JoinRequest.noted (r : JoinRequest) (index : Nat) : StateM (List Nat) Join := do
  modify (· ++ [index])
  pure (r.build index)

namespace IndexedJoins

/-- Requests served one after the other, with the indices for which joins were built. -/
def serve (requests : List JoinRequest) : StateM (List Nat) IndexedJoins :=
  requests.foldlM (fun a r => Prod.snd <$> a.allocate r.signature r.noted) empty

/-- The joins and the map after requests. -/
def served (requests : List JoinRequest) : IndexedJoins := ((serve requests).run []).1

/-- The indices for which joins were built while requests were served. -/
def built (requests : List JoinRequest) : List Nat := ((serve requests).run []).2

/-- **The two structures in step with a table**: the array has its joins, and the map finds what
search finds. -/
structure Mirrors (a : IndexedJoins) (t : JoinTable) : Prop where
  joins : a.joins.toList = t.joins
  places : ∀ signature, a.places[signature]? = t.index? signature

theorem mirrors_empty : empty.Mirrors .empty := ⟨rfl, fun _ => Std.HashMap.getElem?_empty⟩

variable {a : IndexedJoins} {t : JoinTable}

/-- **One request keeps them in step.** The answers are equal, and the join is built, for the next
free index, exactly if no join has its signature. -/
theorem Mirrors.allocate (h : a.Mirrors t) (r : JoinRequest) (notes : List Nat) :
    ∃ a', (a.allocate r.signature r.noted).run notes =
        (((t.allocate r.signature r.build).1, a'),
          notes ++ if r.signature ∈ t.joins.map (·.signature) then [] else [t.joins.length]) ∧
      a'.Mirrors (t.allocate r.signature r.build).2 := by
  have size : a.joins.size = t.joins.length := by rw [← h.joins, Array.length_toList]
  cases found : t.index? r.signature with
  | some index =>
    have old : r.signature ∈ t.joins.map (·.signature) := by
      by_contra new
      rw [JoinTable.index?_eq_none_iff.mpr new] at found
      cases found
    have same : t.allocate r.signature r.build = (index, t) := by rw [JoinTable.allocate, found]
    refine ⟨a, ?_, same ▸ h⟩
    rw [if_pos old, List.append_nil, same, IndexedJoins.allocate, h.places, found]
    rfl
  | none =>
    have new : r.signature ∉ t.joins.map (·.signature) := JoinTable.index?_eq_none_iff.mp found
    have answer : (t.allocate r.signature r.build).1 = t.joins.length := by
      rw [JoinTable.allocate, found]
    refine ⟨⟨a.joins.push { r.build t.joins.length with signature := r.signature },
      a.places.insert r.signature t.joins.length⟩, ?_, ?_, fun signature => ?_⟩
    · rw [if_neg new, answer, IndexedJoins.allocate, h.places, found, size]
      rfl
    · rw [Array.toList_push, h.joins, JoinTable.joins_allocate, if_neg new]
    · rw [Std.HashMap.getElem?_insert, h.places, JoinTable.index?_allocate, answer]
      exact if_congr beq_iff_eq rfl rfl

/-- A request behind others is served on what they left. -/
theorem serve_concat (requests : List JoinRequest) (r : JoinRequest) :
    (served (requests ++ [r]), built (requests ++ [r])) =
      (((served requests).allocate r.signature r.noted).run (built requests)).map Prod.snd id := by
  rw [served, built, serve, List.foldlM_append]
  rfl

/-- **One more request on structures in step**: its answer is that of the table, and it leaves the
structures in step, with a note if it was the first with its signature. -/
theorem Mirrors.concat {requests : List JoinRequest}
    (h : (served requests).Mirrors (.served requests)) (r : JoinRequest) :
    ((served requests).allocate r.signature r.noted).run (built requests) =
        ((((JoinTable.served requests).allocate r.signature r.build).1, served (requests ++ [r])),
          built (requests ++ [r])) ∧
      (served (requests ++ [r])).Mirrors (.served (requests ++ [r])) ∧
      built (requests ++ [r]) = built requests ++
        if r.signature ∈ requests.map (·.signature) then []
        else [(JoinTable.served requests).joins.length] := by
  obtain ⟨a, run, mirrors⟩ := h.allocate r (built requests)
  have step := serve_concat requests r
  rw [run] at step
  obtain ⟨left, noted⟩ := Prod.mk.inj step
  rw [run, left, noted, JoinTable.served_concat]
  exact ⟨rfl, mirrors, congrArg (built requests ++ ·)
    (if_congr (JoinTable.mem_signatures_served requests) rfl rfl)⟩

/-- **They stay in step over any requests**, and a join was built for every index once, from zero
on. -/
theorem mirrors_served (requests : List JoinRequest) :
    (served requests).Mirrors (.served requests) ∧
      built requests = List.range (JoinTable.served requests).joins.length := by
  induction requests using List.reverseRecOn with
  | nil => exact ⟨mirrors_empty, rfl⟩
  | append_singleton requests r ih =>
    obtain ⟨mirrors, notes⟩ := ih
    obtain ⟨_, mirrors', noted⟩ := mirrors.concat r
    refine ⟨mirrors', ?_⟩
    rw [noted, notes, JoinTable.served_concat, JoinTable.joins_allocate, List.length_append]
    by_cases old : r.signature ∈ requests.map (·.signature)
    · rw [if_pos old, if_pos ((JoinTable.mem_signatures_served requests).mpr old), List.append_nil]
      rfl
    · rw [if_neg old, if_neg (mt (JoinTable.mem_signatures_served requests).mp old),
        List.length_singleton, List.range_succ]

/-- In step with a table that has no two joins of one signature, **the map is the inverse of the
array**. -/
theorem Mirrors.places_eq_some_iff (h : a.Mirrors t) (nodup : (t.joins.map (·.signature)).Nodup)
    (signature : String) (index : Nat) :
    a.places[signature]? = some index ↔
      ∃ j, a.joins[index]? = some j ∧ j.signature = signature := by
  rw [h.places, JoinTable.index?_eq_some_iff nodup, ← h.joins, Array.getElem?_toList]

end IndexedJoins

/-! ## The law -/

/-- **Requests are answered with dense indices that stay.** Take any two requests of a list that is
served on a table without joins, `r` and behind it `r'`.

* The answer to `r` is the index of a join with the signature of `r`, whatever was built; and `r'`
  has the same answer exactly if it has the same signature.
* The joins before `r` stay where they are. If the signature is new, one join is put behind them,
  the one that was built for their number; if it is not, nothing is built. From then on the joins
  stay as well.
* The joins are those of the distinct signatures, in the order of the first requests.

The array and the map of `IndexedJoins` are inverse to each other all the while, and `r` has the
same answer from them: the join is built once, for the number of joins, if the signature is new,
and not at all if it is not. -/
theorem served_append_only (before between : List JoinRequest) (r r' : JoinRequest) :
    let table := JoinTable.served before
    let answer := table.allocate r.signature r.build
    let later := JoinTable.served (before ++ r :: between)
    let arena := IndexedJoins.served before
    (∃ j, answer.2.joins[answer.1]? = some j ∧ j.signature = r.signature) ∧
      ((later.allocate r'.signature r'.build).1 = answer.1 ↔ r'.signature = r.signature) ∧
      answer.2.joins = (table.joins ++
        if r.signature ∈ before.map (·.signature) then []
        else [{ r.build table.joins.length with signature := r.signature }]) ∧
      answer.2.joins <+: later.joins ∧
      table.joins.map (·.signature) = (before.map (·.signature)).eraseDups ∧
      arena.joins.toList = table.joins ∧
      IndexedJoins.built before = List.range table.joins.length ∧
      (∀ (signature : String) (index : Nat), arena.places[signature]? = some index ↔
        ∃ j : Join, arena.joins[index]? = some j ∧ j.signature = signature) ∧
      (arena.allocate r.signature r.noted).run (IndexedJoins.built before) =
        ((answer.1, IndexedJoins.served (before ++ [r])),
          IndexedJoins.built before ++
            if r.signature ∈ before.map (·.signature) then [] else [table.joins.length]) := by
  intro table answer later arena
  have known : r.signature ∈ table.joins.map (·.signature) ↔
      r.signature ∈ before.map (·.signature) := JoinTable.mem_signatures_served before
  have found : answer.2.index? r.signature = some answer.1 :=
    (table.allocate_spec r.signature r.build).2.1
  obtain ⟨mirrors, built⟩ := IndexedJoins.mirrors_served before
  obtain ⟨run, _, noted⟩ := mirrors.concat r
  refine ⟨JoinTable.get?_of_index? found, JoinTable.answer_eq_iff before between r r', ?_,
    JoinTable.allocate_le_served before between r, JoinTable.signatures_served before,
    mirrors.joins, built, mirrors.places_eq_some_iff (JoinTable.nodup_served before), ?_⟩
  · rw [JoinTable.joins_allocate]
    exact congrArg _ (if_congr known rfl rfl)
  · rw [run, noted]

/-- Three requests with two signatures leave two joins, whatever is written into them. -/
example (build : Nat → Join) :
    (JoinTable.served [⟨"a", build⟩, ⟨"b", build⟩, ⟨"a", build⟩]).joins.map (·.signature) =
      ["a", "b"] := rfl

end RunFilter
