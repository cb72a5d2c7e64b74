/-
Outcomes that are no errors, taken apart: a sequence yields a value
exactly when each of its parts does.
-/
import Gatewatch.Error

namespace Gatewatch.Outcome

variable {α β : Type}

/-- A sequence yields what its second part makes of its first. -/
theorem bind_eq_ok {x : Outcome α} {f : α → Outcome β} {b : β} :
    (x >>= f) = .ok b ↔ ∃ a, x = .ok a ∧ f a = .ok b := by
  cases x with
  | error e => exact ⟨nofun, fun ⟨_, h, _⟩ => nomatch h⟩
  | ok a =>
      constructor
      · exact fun h => ⟨a, rfl, h⟩
      · rintro ⟨_, h, hf⟩
        injection h with h
        rw [← h] at hf
        exact hf

/-- A mapped outcome is the value of what it was before. -/
theorem map_eq_ok {f : α → β} {x : Outcome α} {b : β} :
    x.map f = .ok b ↔ ∃ a, x = .ok a ∧ f a = b := by
  cases x with
  | error e => exact ⟨nofun, fun ⟨_, h, _⟩ => nomatch h⟩
  | ok a =>
      constructor
      · intro h
        injection h with h
        exact ⟨a, rfl, h⟩
      · rintro ⟨_, h, rfl⟩
        injection h with h
        rw [h]
        rfl

/-- A mapped outcome keeps its error. -/
theorem map_eq_error {f : α → β} {x : Outcome α} {e : Error} :
    x.map f = .error e ↔ x = .error e := by
  cases x with
  | error e' =>
      constructor <;> intro h <;> injection h with h <;> rw [h]
      rfl
  | ok a => exact ⟨nofun, nofun⟩

/-- What is left of an outcome without its error is its value. -/
theorem eq_ok_of_toOption {ε : Type} {x : Except ε α} {a : α}
    (h : x.toOption = some a) : x = .ok a := by
  cases x with
  | error e => cases h
  | ok b => injection h with h; rw [h]

/-- The same of an outcome that there may be. -/
theorem eq_some_ok_of_toOption {x : Option (Outcome α)} {a : α}
    (h : x.map Except.toOption = some (some a)) : x = some (.ok a) := by
  obtain ⟨y, rfl, hy⟩ := Option.map_eq_some_iff.1 h
  exact congrArg some (eq_ok_of_toOption hy)

end Gatewatch.Outcome
