import Mathlib.Tactic.Basic

/-!
# Outcomes of computations that can fail

A computation made of steps succeeds when each of its steps does, and wrapping an error changes
nothing about success.
-/

set_option autoImplicit false

namespace JavaScribe

/-- Two steps in a row succeed just if both of them do. -/
theorem except_bind_eq_ok_iff {ε α β : Type} {x : Except ε α} {f : α → Except ε β} {b : β} :
    (x >>= f) = .ok b ↔ ∃ a, x = .ok a ∧ f a = .ok b := by
  cases x <;> simp [bind, Except.bind]

/-- Renaming errors does not change successes. -/
theorem except_mapError_eq_ok_iff {ε ε' α : Type} {x : Except ε α} {f : ε → ε'} {a : α} :
    x.mapError f = .ok a ↔ x = .ok a := by
  cases x with
  | error d => exact ⟨nofun, nofun⟩
  | ok b =>
    constructor <;>
    · intro h
      exact congrArg Except.ok (Except.ok.inj h)

/-- Renaming errors turns every error into its new name. -/
theorem except_mapError_eq_error_iff {ε ε' α : Type} {x : Except ε α} {f : ε → ε'} {e : ε'} :
    x.mapError f = .error e ↔ ∃ d, x = .error d ∧ e = f d := by
  cases x with
  | error d =>
    constructor
    · intro h
      exact ⟨d, rfl, (Except.error.inj h).symm⟩
    · rintro ⟨d', hd, rfl⟩
      rw [Except.error.inj hd]
      rfl
  | ok b =>
    constructor
    · nofun
    · rintro ⟨d, hd, -⟩
      cases hd

/-- What is made of a success is a success. -/
theorem except_map_eq_ok_iff {ε α β : Type} {x : Except ε α} {f : α → β} {b : β} :
    x.map f = .ok b ↔ ∃ a, x = .ok a ∧ f a = b := by
  cases x <;> simp [Except.map]

end JavaScribe
