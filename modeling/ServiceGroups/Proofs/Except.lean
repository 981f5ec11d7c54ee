/-!
# Computations that may fail

A sequence of steps gives a value only if each of its steps does, so an accepted result can be
taken apart step by step.
-/

namespace ServiceGroups

variable {ε ε' α β : Type}

theorem exists_of_bind_eq_ok {result : Except ε α} {next : α → Except ε β} {final : β}
    (done : result >>= next = .ok final) :
    ∃ value, result = .ok value ∧ next value = .ok final := by
  cases result with
  | error fault => cases done
  | ok value => exact ⟨value, rfl, done⟩

theorem exists_of_map_eq_ok {result : Except ε α} {change : α → β} {value : β}
    (mapped : result.map change = .ok value) :
    ∃ before, result = .ok before ∧ change before = value := by
  cases result with
  | error fault => cases mapped
  | ok before =>
      cases mapped
      exact ⟨before, rfl, rfl⟩

theorem bind_mapError_eq_ok {result : Except ε α} {change : ε → ε'} {next : α → Except ε' β}
    {final : β} (done : result.mapError change >>= next = .ok final) :
    ∃ value, result = .ok value ∧ next value = .ok final := by
  cases result with
  | error failure => cases done
  | ok value => exact ⟨value, rfl, done⟩

end ServiceGroups
