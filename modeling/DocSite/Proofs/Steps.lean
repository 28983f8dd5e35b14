import Mathlib.Tactic.Common

/-!
# Steps that may fail

A step goes on where the one before has succeeded. So what both have come
to tells what the first has: it has succeeded if both have
(`exists_of_bind`), and otherwise the error is that of one of them
(`error_of_bind`).
-/

namespace DocSite

variable {ε α β : Type} {step : Except ε α} {next : α → Except ε β}

theorem exists_of_bind {b : β} (h : step >>= next = .ok b) :
    ∃ a, step = .ok a ∧ next a = .ok b := by
  cases step with
  | error e => exact absurd h (by simp [bind, Except.bind])
  | ok a => exact ⟨a, rfl, h⟩

theorem error_of_bind {e : ε} (h : step >>= next = .error e) :
    step = .error e ∨ ∃ a, step = .ok a ∧ next a = .error e := by
  cases step with
  | error e' =>
    injection h with h
    exact Or.inl (congrArg _ h)
  | ok a => exact Or.inr ⟨a, rfl, h⟩

end DocSite
