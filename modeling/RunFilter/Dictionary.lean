/-!
# Dictionaries

Texts stored under texts, kept in ascending order of the keys, so that two dictionaries with the
same content are equal. Storing under a key that is present replaces its text.
-/

set_option autoImplicit false

namespace RunFilter

/-- Texts under distinct keys, in ascending order of the keys. -/
structure Dictionary where
  entries : List (String × String)
  ascending : entries.Pairwise fun a b => a.1 < b.1
  deriving DecidableEq

namespace Dictionary

/-- A text stored in its place. -/
def insertInto (key text : String) : List (String × String) → List (String × String)
  | [] => [(key, text)]
  | e :: es =>
    if key < e.1 then (key, text) :: e :: es
    else if key = e.1 then (key, text) :: es
    else e :: insertInto key text es

theorem mem_insertInto {key text : String} {e : String × String} {es : List (String × String)}
    (h : e ∈ insertInto key text es) : e = (key, text) ∨ e ∈ es := by
  induction es with
  | nil => simpa [insertInto] using h
  | cons f fs ih =>
    rw [insertInto] at h
    split at h
    · simpa using h
    · split at h
      · rcases List.mem_cons.mp h with h | h
        · exact .inl h
        · exact .inr (List.mem_cons_of_mem _ h)
      · rcases List.mem_cons.mp h with h | h
        · exact .inr (h ▸ List.mem_cons_self)
        · exact (ih h).imp_right (List.mem_cons_of_mem _)

theorem ascending_insertInto {key text : String} {es : List (String × String)}
    (h : es.Pairwise fun a b => a.1 < b.1) :
    (insertInto key text es).Pairwise fun a b => a.1 < b.1 := by
  induction es with
  | nil => simp [insertInto]
  | cons e es ih =>
    have below : ∀ f ∈ es, e.1 < f.1 := fun f hf => List.rel_of_pairwise_cons h hf
    rw [insertInto]
    split
    next before =>
      refine List.pairwise_cons.mpr ⟨fun f hf => ?_, h⟩
      rcases List.mem_cons.mp hf with rfl | hf
      · exact before
      · exact String.lt_trans before (below f hf)
    next notBefore =>
      split
      next same => exact List.pairwise_cons.mpr ⟨fun f hf => same ▸ below f hf, h.of_cons⟩
      next other =>
        refine List.pairwise_cons.mpr ⟨fun f hf => ?_, ih h.of_cons⟩
        rcases mem_insertInto hf with rfl | hf
        · rcases Std.lt_trichotomy key e.1 with before | same | behind
          · exact absurd before notBefore
          · exact absurd same other
          · exact behind
        · exact below f hf

/-- The dictionary without keys. -/
def empty : Dictionary := ⟨[], List.Pairwise.nil⟩

instance : Inhabited Dictionary := ⟨empty⟩

/-- **The dictionary with a text stored under a key.** -/
def insert (d : Dictionary) (key text : String) : Dictionary :=
  ⟨insertInto key text d.entries, ascending_insertInto d.ascending⟩

/-- The dictionary of a list of pairs; of two pairs with one key the later one counts. -/
def ofList (pairs : List (String × String)) : Dictionary :=
  pairs.foldl (fun d pair => d.insert pair.1 pair.2) empty

/-- The text stored under a key. -/
def get? (d : Dictionary) (key : String) : Option String := d.entries.lookup key

/-- Whether nothing is stored. -/
def isEmpty (d : Dictionary) : Bool := d.entries.isEmpty

/-- The dictionary with its keys changed; where two keys become one, the text of the greater of
the two counts. -/
def mapKeys (f : String → String) (d : Dictionary) : Dictionary :=
  ofList (d.entries.map fun (key, text) => (f key, text))

instance : Repr Dictionary := ⟨fun d n => reprPrec d.entries n⟩

end Dictionary

end RunFilter
