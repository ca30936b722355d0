import RunFilter.Proofs.Parsing.Passing

/-!
# Two runs side by side

`Paired E R x y` says of two computations that both fail or both give a result, that their mistakes
stand in the relation `E`, and their results in the relation `R`. It is kept by every step that
both take, so two functions of one shape are compared step by step (`Paired.bind`).
-/

set_option autoImplicit false

namespace RunFilter

/-- **Both runs fail or both give a result**, with mistakes and results that are related. -/
inductive Paired {ε ε' α β : Type} (E : ε → ε' → Prop) (R : α → β → Prop) :
    Except ε α → Except ε' β → Prop
  | ok {a : α} {b : β} (h : R a b) : Paired E R (.ok a) (.ok b)
  | error {e : ε} {e' : ε'} (h : E e e') : Paired E R (.error e) (.error e')

/-- Any two mistakes. -/
def anyMistakes {ε ε' : Type} (_ : ε) (_ : ε') : Prop := True

namespace Paired

variable {ε ε' φ φ' α β γ δ : Type} {E : ε → ε' → Prop} {F : φ → φ' → Prop} {R : α → β → Prop}
  {S : γ → δ → Prop} {x : Except ε α} {y : Except ε' β}

/-- **Steps that are taken in both runs** keep them paired. -/
theorem bind {f : α → Except ε γ} {g : β → Except ε' δ} (h : Paired E R x y)
    (step : ∀ {a b}, R a b → Paired E S (f a) (g b)) : Paired E S (x >>= f) (y >>= g) := by
  cases h with
  | ok h => exact step h
  | error h => exact .error h

theorem map {f : α → γ} {g : β → δ} (h : Paired E R x y) (each : ∀ {a b}, R a b → S (f a) (g b)) :
    Paired E S (x.map f) (y.map g) := by
  cases h with
  | ok h => exact .ok (each h)
  | error h => exact .error h

theorem mapError {f : ε → φ} {g : ε' → φ'} (h : Paired E R x y)
    (each : ∀ {e e'}, E e e' → F (f e) (g e')) : Paired F R (x.mapError f) (y.mapError g) := by
  cases h with
  | ok h => exact .ok h
  | error h => exact .error (each h)

/-- Runs with a weaker relation between their results. -/
theorem mono {R' : α → β → Prop} (h : Paired E R x y) (weaker : ∀ {a b}, R a b → R' a b) :
    Paired E R' x y := by
  cases h with
  | ok h => exact .ok (weaker h)
  | error h => exact .error h

/-- Runs with what is known of the first result. -/
theorem known {P : α → Prop} (h : Paired E R x y) (known : ∀ a, x = .ok a → P a) :
    Paired E (fun a b => P a ∧ R a b) x y := by
  cases h with
  | ok h => exact .ok ⟨known _ rfl, h⟩
  | error h => exact .error h

/-- One run gives a result exactly if the other does. -/
theorem exists_ok_iff (h : Paired E R x y) : (∃ a, x = .ok a) ↔ ∃ b, y = .ok b := by
  cases h with
  | ok h => simp
  | error h => simp

theorem of_ok {a : α} {b : β} (h : Paired E R (.ok a) (.ok b)) : R a b := by
  cases h with
  | ok h => exact h

/-- Runs with the same results give them alike. -/
theorem ok_iff {y : Except ε' α} (h : Paired E Eq x y) (a : α) : x = .ok a ↔ y = .ok a := by
  cases h with
  | ok h => simp [h]
  | error h => simp

end Paired

end RunFilter
