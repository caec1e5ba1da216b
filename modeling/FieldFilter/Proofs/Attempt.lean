/-!
# FieldFilter.Proofs.Attempt — results of steps that may fail

The lemmas by which computations in `Except` are taken apart.
-/

namespace FieldFilter

variable {ε ε' α β : Type} {x : Except ε α} {f : α → Except ε β} {a : α} {b : β} {e : ε}

theorem ok_bind (a : α) (f : α → Except ε β) : (Except.ok a >>= f) = f a := rfl

/-- One step after another gives a result if both do. -/
theorem bind_eq_ok : x >>= f = .ok b ↔ ∃ a, x = .ok a ∧ f a = .ok b := by
  cases x with
  | error _ => simp [bind, Except.bind]
  | ok a => simp [bind, Except.bind]

/-- One step after another fails with the first or, after it, with the second. -/
theorem bind_eq_error : x >>= f = .error e ↔ x = .error e ∨ ∃ a, x = .ok a ∧ f a = .error e := by
  cases x <;> simp [bind, Except.bind]

theorem mapError_ok (g : ε → ε') (a : α) : (Except.ok a).mapError g = .ok a := rfl

theorem mapError_error (g : ε → ε') (e : ε) : (Except.error e : Except ε α).mapError g = .error (g e) := rfl

theorem mapError_eq_ok {g : ε → ε'} : x.mapError g = .ok a ↔ x = .ok a := by
  cases x with
  | error _ => exact ⟨nofun, nofun⟩
  | ok a' => simp [mapError_ok]

theorem mapError_eq_error {g : ε → ε'} {e' : ε'} : x.mapError g = .error e' ↔ ∃ e, x = .error e ∧ g e = e' := by
  cases x with
  | error e => simp [mapError_error]
  | ok a => simp [mapError_ok]

/-- A test that has an answer answers whether it is passed. -/
theorem eq_ok_decide {x : Except ε Bool} [Decidable (x = .ok true)] (h : ∃ b, x = .ok b) :
    x = .ok (decide (x = .ok true)) := by
  obtain ⟨b, rfl⟩ := h
  cases b <;> simp

theorem toOption_eq_some : x.toOption = some a ↔ x = .ok a := by
  cases x <;> simp [Except.toOption]

/-- What every step keeps of a state is kept by all steps together. -/
theorem foldlM_keeps {σ : Type} {step : σ → α → Except ε σ} {P : σ → Prop} {xs : List α} {s s' : σ}
    (hstep : ∀ x ∈ xs, ∀ s s', step s x = .ok s' → P s → P s') (h : xs.foldlM step s = .ok s') (hs : P s) :
    P s' := by
  induction xs generalizing s with
  | nil =>
    cases h
    exact hs
  | cons x xs ih =>
    rw [List.foldlM_cons] at h
    rw [List.forall_mem_cons] at hstep
    obtain ⟨mid, hmid, hrest⟩ := bind_eq_ok.mp h
    exact ih hstep.2 hrest (hstep.1 s mid hmid hs)

/-! ### Failures -/

/-- The failure of an attempt, if it fails. -/
def failure? : Except ε α → Option ε
  | .error e => some e
  | .ok _ => none

theorem failure?_eq_some : failure? x = some e ↔ x = .error e := by
  cases x <;> simp [failure?]

theorem failure?_eq_none : failure? x = none ↔ ∃ a, x = .ok a := by
  cases x <;> simp [failure?]

/-- Where the failure of what follows does not hang on the result, the first failure is the failure of all. -/
theorem failure?_bind {later : Option ε} (h : ∀ a, failure? (f a) = later) :
    failure? (x >>= f) = (failure? x).or later := by
  cases x with
  | error e => rfl
  | ok a => exact h a

/-- The same where a step takes two attempts. -/
theorem failure?_bind_bind {γ : Type} {g : β → Except ε γ} {later : Option ε} (h : ∀ b, failure? (g b) = later) :
    failure? (x >>= fun a => f a >>= g) = (failure? (x >>= f)).or later := by
  rw [← bind_assoc, failure?_bind h]

end FieldFilter
