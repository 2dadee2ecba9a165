/-! # Results

A result is a value or an error. What is known about a result that is made in several steps is had
from the steps: a value comes from values of all of them, and an error from the first that fails.
-/

namespace Observance.Result

variable {ε ε' α β : Type} {result : Except ε α}

/-- A sequence of two steps gives a value exactly if both do. -/
theorem bind_eq_ok {next : α → Except ε β} {value : β} :
    (result >>= next) = .ok value ↔ ∃ first, result = .ok first ∧ next first = .ok value := by
  cases result <;> simp [bind, Except.bind]

/-- A sequence of two steps fails with the error of the first step that does. -/
theorem bind_eq_error {next : α → Except ε β} {error : ε} :
    (result >>= next) = .error error ↔
      result = .error error ∨ ∃ first, result = .ok first ∧ next first = .error error := by
  cases result <;> simp [bind, Except.bind]

theorem pure_eq_ok {value other : α} : (pure value : Except ε α) = .ok other ↔ value = other := by
  simp [pure, Except.pure]

theorem pure_ne_error {value : α} {error : ε} : (pure value : Except ε α) ≠ .error error := nofun

theorem throw_ne_ok {value : α} {error : ε} : (throw error : Except ε α) ≠ .ok value := nofun

theorem throw_eq_error {error other : ε} :
    (throw error : Except ε α) = .error other ↔ error = other := by
  simp [throw, throwThe, MonadExceptOf.throw]

theorem map_eq_ok {change : α → β} {value : β} :
    result.map change = .ok value ↔ ∃ first, result = .ok first ∧ change first = value := by
  cases result <;> simp [Except.map]

theorem map_eq_error {change : α → β} {error : ε} :
    result.map change = .error error ↔ result = .error error := by
  cases result <;> simp [Except.map]

theorem mapError_ok (change : ε → ε') (value : α) :
    (Except.ok value).mapError change = .ok value := rfl

theorem mapError_error (change : ε → ε') (error : ε) :
    (Except.error error : Except ε α).mapError change = .error (change error) := rfl

theorem mapError_eq_ok {change : ε → ε'} {value : α} :
    result.mapError change = .ok value ↔ result = .ok value := by
  cases result <;> simp [mapError_ok, mapError_error]

theorem mapError_eq_error {change : ε → ε'} {error : ε'} :
    result.mapError change = .error error ↔
      ∃ cause, result = .error cause ∧ change cause = error := by
  cases result <;> simp [mapError_ok, mapError_error]

theorem toOption_eq_some {value : α} : result.toOption = some value ↔ result = .ok value := by
  cases result <;> simp [Except.toOption]

/-- A result that leaves something is a value. -/
theorem exists_of_isSome_toOption (left : result.toOption.isSome = true) :
    ∃ value, result = .ok value := by
  cases result with
  | ok value => exact ⟨value, rfl⟩
  | error error => cases left

/-- A check of several elements is passed exactly if each element passes it. -/
theorem forM_eq_ok {check : α → Except ε Unit} {elements : List α} :
    elements.forM check = .ok () ↔ ∀ element ∈ elements, check element = .ok () := by
  induction elements with
  | nil => simp [pure, Except.pure]
  | cons element elements ih =>
    change (check element >>= fun _ => elements.forM check) = .ok () ↔ _
    rw [bind_eq_ok, List.forall_mem_cons, ← ih]
    constructor
    · rintro ⟨_, passed, others⟩
      exact ⟨passed, others⟩
    · rintro ⟨passed, others⟩
      exact ⟨(), passed, others⟩

end Observance.Result
