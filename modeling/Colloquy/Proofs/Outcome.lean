import Mathlib.Tactic.Lemma

/-!
# Steps that succeed

Operations are sequences of steps that may fail. These lemmas take a sequence that succeeded apart
into its steps, and put it together again.
-/

namespace Colloquy

variable {ε α β γ : Type}

/-- A sequence succeeds exactly if its first step does, and what follows does with its result. -/
@[simp] lemma bind_eq_ok_iff {x : Except ε α} {f : α → Except ε β} {b : β} :
    x >>= f = .ok b ↔ ∃ a, x = .ok a ∧ f a = .ok b := by
  cases x with
  | error e => simp [bind, Except.bind]
  | ok a => simp [bind, Except.bind]

/-- A result succeeds with itself. -/
@[simp] lemma pure_eq_ok_iff {a b : α} : (pure a : Except ε α) = .ok b ↔ a = b := by
  simp [pure, Except.pure]

/-- What is made of a result succeeds exactly if the result does. -/
@[simp] lemma map_eq_ok_iff {f : α → β} {x : Except ε α} {b : β} :
    x.map f = .ok b ↔ ∃ a, x = .ok a ∧ f a = b := by
  cases x <;> simp [Except.map]

/-- Changing errors does not change a result. -/
lemma mapError_ok_eq {ε' : Type} {f : ε → ε'} {a : α} :
    (Except.ok a : Except ε α).mapError f = .ok a := rfl

/-- Changing errors changes an error. -/
lemma mapError_error_eq {ε' : Type} {f : ε → ε'} {e : ε} :
    (Except.error e : Except ε α).mapError f = .error (f e) := rfl

/-- What succeeds after its errors are changed is what succeeds. -/
lemma mapError_eq_ok_iff {ε' : Type} {f : ε → ε'} {x : Except ε α} {a : α} :
    x.mapError f = .ok a ↔ x = .ok a := by
  cases x with
  | error e => simp [mapError_error_eq]
  | ok b => simp [mapError_ok_eq]

/-! ### Steps that fail -/

/-- A sequence fails exactly if its first step does, or what follows does with its result. -/
lemma bind_eq_error_iff {x : Except ε α} {f : α → Except ε β} {e : ε} :
    x >>= f = .error e ↔ x = .error e ∨ ∃ a, x = .ok a ∧ f a = .error e := by
  cases x with
  | error e' => simp [bind, Except.bind]
  | ok a => simp [bind, Except.bind]

/-- The same, with something else that is said of the error. -/
lemma bind_eq_error_and_iff {x : Except ε α} {f : α → Except ε β} {e : ε} {p : Prop} :
    (x >>= f = .error e ∧ p) ↔
      (x = .error e ∧ p) ∨ ∃ a, x = .ok a ∧ f a = .error e ∧ p := by
  rw [bind_eq_error_iff, or_and_right]
  refine or_congr_right ⟨?_, ?_⟩
  · rintro ⟨⟨a, ha, hf⟩, hp⟩
    exact ⟨a, ha, hf, hp⟩
  · rintro ⟨a, ha, hf, hp⟩
    exact ⟨⟨a, ha, hf⟩, hp⟩

/-- What succeeds does not fail. -/
lemma ne_error_of_ok {x : Except ε α} {a : α} {e : ε} (h : x = .ok a) : x ≠ .error e := by
  simp [h]

/-- A result is no error. -/
lemma pure_ne_error {a : α} {e : ε} : (pure a : Except ε α) ≠ .error e := ne_error_of_ok rfl

/-- What is made of a result fails exactly if the result does. -/
lemma map_eq_error_iff {f : α → β} {x : Except ε α} {e : ε} :
    x.map f = .error e ↔ x = .error e := by
  cases x <;> simp [Except.map]

/-- What fails after its errors are changed fails with a changed error. -/
lemma mapError_eq_error_iff {ε' : Type} {f : ε → ε'} {x : Except ε α} {e' : ε'} :
    x.mapError f = .error e' ↔ ∃ e, x = .error e ∧ f e = e' := by
  cases x with
  | error e => simp [mapError_error_eq]
  | ok a => simp [mapError_ok_eq]

/-! ### Results that are passed on -/

/-- A result is passed on to what follows. -/
lemma ok_bind_eq {a : α} {f : α → Except ε β} : Except.ok a >>= f = f a := rfl

/-- An error is passed over what follows. -/
lemma error_bind_eq {e : ε} {f : α → Except ε β} : Except.error e >>= f = .error e := rfl

/-- What is done with a result can be done at the end of the steps that give it. -/
lemma map_bind_eq {x : Except ε α} {f : α → Except ε β} {g : β → γ} :
    (x >>= f).map g = x >>= fun a => (f a).map g := by
  cases x <;> rfl

/-- What is made of a result is a result. -/
lemma map_pure_eq {a : α} {g : α → β} : (pure a : Except ε α).map g = .ok (g a) := rfl

end Colloquy
