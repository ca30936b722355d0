import Mathlib.Data.List.Induction
import Mathlib.Data.List.Nodup
import RunFilter.Dictionary

/-!
# Dictionaries with other keys

When the keys of a dictionary are changed, two of them may become one, and of their texts one is
left. The entries are stored again in ascending order of the old keys, so the text of the greatest
of them prevails (`mem_mapKeys_iff`). Nothing is lost exactly if keys that become one have one text
(`forall_prevails_iff`).
-/

set_option autoImplicit false

namespace RunFilter.Dictionary

variable {key text : String} {e : String × String} {es : List (String × String)}

/-! ## Storing -/

theorem mem_insertInto_iff (ascending : es.Pairwise fun a b => a.1 < b.1) :
    e ∈ insertInto key text es ↔ e = (key, text) ∨ e ∈ es ∧ e.1 ≠ key := by
  induction es with
  | nil => simp [insertInto]
  | cons f fs ih =>
    have above : ∀ g ∈ fs, f.1 < g.1 := fun g mem => List.rel_of_pairwise_cons ascending mem
    rw [insertInto]
    split
    next before =>
      have apart : e ∈ f :: fs → e.1 ≠ key := by
        rintro mem rfl
        rcases List.mem_cons.mp mem with rfl | mem
        · exact String.lt_irrefl _ before
        · exact String.lt_irrefl _ (String.lt_trans before (above e mem))
      rw [List.mem_cons, and_iff_left_of_imp apart]
    next notBefore =>
      split
      next same =>
        have apart : e ∈ fs → e.1 ≠ key := by
          rintro mem rfl
          exact String.lt_irrefl _ (same ▸ above e mem)
        rw [List.mem_cons, List.mem_cons, or_and_right, and_iff_left_of_imp apart]
        have replaced : ¬(e = f ∧ e.1 ≠ key) := by
          rintro ⟨rfl, other⟩
          exact other same.symm
        rw [or_iff_right replaced]
      next other =>
        rw [List.mem_cons, ih ascending.of_cons, List.mem_cons, or_left_comm, or_and_right]
        have kept : e = f → e.1 ≠ key := by
          rintro rfl
          exact Ne.symm other
        rw [and_iff_left_of_imp kept]

theorem mem_insert_iff (d : Dictionary) :
    e ∈ (d.insert key text).entries ↔ e = (key, text) ∨ e ∈ d.entries ∧ e.1 ≠ key :=
  mem_insertInto_iff d.ascending

/-- Keys are distinct, so a key tells its entry. -/
theorem eq_of_key_eq {d : Dictionary} {e e' : String × String} (mem : e ∈ d.entries)
    (mem' : e' ∈ d.entries) (same : e.1 = e'.1) : e = e' := by
  have distinct : (d.entries.map Prod.fst).Nodup := by
    refine List.pairwise_map.mpr (d.ascending.imp fun {a b} less (equal : a.1 = b.1) => ?_)
    exact String.lt_irrefl _ (equal ▸ less)
  exact List.inj_on_of_nodup_map distinct mem mem' same

/-- **Of the pairs of a list with one key the last one is stored.** -/
theorem mem_ofList_iff {pairs : List (String × String)} : e ∈ (ofList pairs).entries ↔
    ∃ before after, pairs = before ++ e :: after ∧ ∀ later ∈ after, later.1 ≠ e.1 := by
  induction pairs using List.reverseRecOn with
  | nil => simp [ofList, empty]
  | append_singleton pairs pair ih =>
    rw [ofList, List.foldl_append]
    change e ∈ ((ofList pairs).insert pair.1 pair.2).entries ↔ _
    rw [mem_insert_iff, ih]
    constructor
    · rintro (rfl | ⟨⟨before, after, rfl, latest⟩, other⟩)
      · exact ⟨pairs, [], rfl, nofun⟩
      · refine ⟨before, after ++ [pair], by simp, fun later mem => ?_⟩
        rcases List.mem_append.mp mem with mem | mem
        · exact latest later mem
        · rw [List.mem_singleton.mp mem]
          exact Ne.symm other
    · rintro ⟨before, after, split, latest⟩
      rcases List.eq_nil_or_concat' after with rfl | ⟨init, last, rfl⟩
      · exact .inl (List.singleton_inj.mp (List.append_inj' split rfl).2).symm
      · rw [← List.cons_append, ← List.append_assoc] at split
        obtain ⟨rfl, rest⟩ := List.append_inj' split rfl
        obtain rfl := List.singleton_inj.mp rest
        refine .inr ⟨⟨before, init, rfl, fun later mem => ?_⟩, ?_⟩
        · exact latest later (List.mem_append_left _ mem)
        · exact Ne.symm (latest pair (List.mem_append_right _ List.mem_cons_self))

/-- A key of a list has a text. -/
theorem exists_mem_ofList {pairs : List (String × String)} (mem : e ∈ pairs) :
    ∃ text, (e.1, text) ∈ (ofList pairs).entries := by
  induction pairs using List.reverseRecOn with
  | nil => cases mem
  | append_singleton pairs pair ih =>
    rw [ofList, List.foldl_append]
    change ∃ text, (e.1, text) ∈ ((ofList pairs).insert pair.1 pair.2).entries
    simp only [mem_insert_iff]
    by_cases last : e.1 = pair.1
    · exact ⟨pair.2, .inl (by rw [last])⟩
    · rcases List.mem_append.mp mem with mem | mem
      · obtain ⟨text, stored⟩ := ih mem
        exact ⟨text, .inr ⟨stored, last⟩⟩
      · exact absurd (congrArg Prod.fst (List.mem_singleton.mp mem)) last

/-! ## Keys that become one -/

/-- **A text is that of the greatest key** among those that become the same as `key`. -/
def Prevails (d : Dictionary) (f : String → String) (key text : String) : Prop :=
  ∃ e ∈ d.entries, f e.1 = f key ∧ e.2 = text ∧
    ∀ other ∈ d.entries, f other.1 = f key → ¬ e.1 < other.1

/-- Keys that become one have one text. -/
def Merges (d : Dictionary) (f : String → String) : Prop :=
  ∀ e ∈ d.entries, ∀ e' ∈ d.entries, f e.1 = f e'.1 → e.2 = e'.2

variable {d : Dictionary} {f : String → String}

/-- **The text that prevails is stored under the new key.** -/
theorem mem_mapKeys_iff : (f key, text) ∈ (d.mapKeys f).entries ↔ d.Prevails f key text := by
  rw [mapKeys, mem_ofList_iff]
  constructor
  · rintro ⟨before, after, split, latest⟩
    obtain ⟨front, back, entries, rfl, rest⟩ := List.map_eq_append_iff.mp split
    obtain ⟨e, behind, rfl, own, rfl⟩ := List.map_eq_cons_iff.mp rest
    obtain ⟨same, value⟩ := Prod.mk.inj own
    refine ⟨e, by simp [entries], same, value, fun other mem merged less => ?_⟩
    rw [entries] at mem
    have ascending := entries ▸ d.ascending
    rcases List.mem_append.mp mem with mem | mem
    · have less' := (List.pairwise_append.mp ascending).2.2 other mem e List.mem_cons_self
      exact String.lt_irrefl _ (String.lt_trans less less')
    · rcases List.mem_cons.mp mem with rfl | mem
      · exact String.lt_irrefl _ less
      · exact latest _ (List.mem_map_of_mem mem) merged
  · rintro ⟨e, mem, same, rfl, greatest⟩
    obtain ⟨front, behind, entries⟩ := List.append_of_mem mem
    refine ⟨_, _, by rw [entries, List.map_append, List.map_cons, ← same], fun later mem => ?_⟩
    obtain ⟨other, behind, rfl⟩ := List.mem_map.mp mem
    intro merged
    have ascending := entries ▸ d.ascending
    refine greatest other (by simp [entries, behind]) merged ?_
    exact List.rel_of_pairwise_cons (List.pairwise_append.mp ascending).2.1 behind

/-- A key that is stored has a text that prevails. -/
theorem exists_prevails (f : String → String) (mem : e ∈ d.entries) :
    ∃ text, d.Prevails f e.1 text := by
  obtain ⟨text, stored⟩ := exists_mem_ofList
    (List.mem_map_of_mem (f := fun e : String × String => (f e.1, e.2)) mem)
  exact ⟨text, mem_mapKeys_iff.mp stored⟩

/-- **Every text prevails** exactly if keys that become one have one text. -/
theorem forall_prevails_iff :
    (∀ e ∈ d.entries, d.Prevails f e.1 e.2) ↔ d.Merges f := by
  constructor
  · intro all e mem e' mem' same
    obtain ⟨m, stored, merged, text, greatest⟩ := all e mem
    obtain ⟨m', stored', merged', text', greatest'⟩ := all e' mem'
    have equal : m.1 = m'.1 := by
      rcases Std.lt_trichotomy m.1 m'.1 with less | equal | greater
      · exact absurd less (greatest m' stored' (merged'.trans same.symm))
      · exact equal
      · exact absurd greater (greatest' m stored (merged.trans same))
    rw [← text, ← text', eq_of_key_eq stored stored' equal]
  · intro merges e mem
    obtain ⟨text, m, stored, merged, own, greatest⟩ := exists_prevails f mem
    exact ⟨m, stored, merged, merges m stored e mem merged, greatest⟩

end RunFilter.Dictionary
