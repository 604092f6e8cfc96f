import Mathlib.Logic.Basic

/-!
# Computations that may fail

When a computation put together from others succeeds, with which errors it fails, and what is left
of it when its errors are forgotten.
-/

namespace DocBridge

variable {ε ε' α β γ δ : Type}

theorem bind_eq_ok_iff {x : Except ε α} {f : α → Except ε β} {b : β} :
    (x >>= f) = .ok b ↔ ∃ a, x = .ok a ∧ f a = .ok b := by
  cases x with
  | ok a =>
      constructor
      · intro h
        exact ⟨a, rfl, h⟩
      · rintro ⟨_, ha, h⟩
        obtain rfl := Except.ok.inj ha
        exact h
  | error e =>
      constructor
      · intro h
        cases h
      · rintro ⟨_, ha, _⟩
        cases ha

/-- Computations for all items succeed if each does. -/
theorem mapM_eq_ok_iff {items : List α} {f : α → Except ε β} {results : List β} :
    items.mapM f = .ok results ↔ items.map f = results.map .ok := by
  induction items generalizing results with
  | nil => simp [pure, Except.pure, eq_comm]
  | cons item rest ih =>
      rw [List.mapM_cons, bind_eq_ok_iff, List.map_cons, eq_comm, List.map_eq_cons_iff]
      simp only [bind_eq_ok_iff, ih]
      constructor
      · rintro ⟨result, hitem, later, hrest, h⟩
        obtain rfl := Except.ok.inj h
        exact ⟨result, later, rfl, hitem.symm, hrest.symm⟩
      · rintro ⟨result, later, rfl, hitem, hrest⟩
        exact ⟨result, hitem.symm, later, hrest.symm, rfl⟩

theorem mapError_ok (f : ε → ε') (a : α) : (Except.ok a).mapError f = .ok a := rfl

theorem mapError_error (f : ε → ε') (e : ε) :
    (.error e : Except ε α).mapError f = .error (f e) := rfl

theorem mapError_eq_ok_iff {x : Except ε α} {f : ε → ε'} {a : α} :
    x.mapError f = .ok a ↔ x = .ok a := by
  cases x <;> simp [mapError_ok, mapError_error]

theorem toOption_bind (x : Except ε α) (f : α → Except ε β) :
    (x >>= f).toOption = x.toOption.bind fun a => (f a).toOption := by
  cases x <;> rfl

theorem toOption_map (x : Except ε α) (f : α → β) : (x.map f).toOption = x.toOption.map f := by
  cases x <;> rfl

theorem toOption_mapError (x : Except ε α) (f : ε → ε') :
    (x.mapError f).toOption = x.toOption := by
  cases x <;> rfl

/-- Two computations fail with the same errors, if they fail. -/
def FailAlike (x : Except ε α) (y : Except ε β) : Prop := ∀ e, x = .error e ↔ y = .error e

namespace FailAlike

variable {x : Except ε α} {y : Except ε β}

theorem refl (x : Except ε α) : FailAlike x x := fun _ => Iff.rfl

theorem ok (a : α) (b : β) : FailAlike (.ok a : Except ε α) (.ok b : Except ε β) := by
  intro e
  simp

theorem symm (h : FailAlike x y) : FailAlike y x := fun e => (h e).symm

theorem trans {z : Except ε γ} (hxy : FailAlike x y) (hyz : FailAlike y z) : FailAlike x z :=
  fun e => (hxy e).trans (hyz e)

theorem bind {f : α → Except ε γ} {g : β → Except ε δ} (h : FailAlike x y)
    (hnext : ∀ a b, FailAlike (f a) (g b)) : FailAlike (x >>= f) (y >>= g) := by
  cases x with
  | error e =>
      obtain rfl := (h e).mp rfl
      intro e'
      simp [Bind.bind, Except.bind]
  | ok a =>
      cases y with
      | error e => cases (h e).mpr rfl
      | ok b => exact hnext a b

end FailAlike

end DocBridge
