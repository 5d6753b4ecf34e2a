import PocketCalculator.Error

/-! Chains of calculations, each of which may end the whole with an error. -/

namespace PocketCalculator

variable {α β : Type}

/-- A value is handed on to the next calculation. -/
@[simp] theorem ok_bind (a : α) (next : α → Except CalcError β) :
    (Except.ok a >>= next) = next a :=
  rfl

/-- An error leaves nothing to hand on. -/
@[simp] theorem error_bind (error : CalcError) (next : α → Except CalcError β) :
    (Except.error error >>= next) = .error error :=
  rfl

/-- Handing a value on unchanged adds nothing. -/
@[simp] theorem bind_ok (outcome : Except CalcError α) : (outcome >>= Except.ok) = outcome :=
  -- Handing the value on unchanged is the monad's own right unit.
  bind_pure outcome

/-- A change of the value is a calculation that never fails. -/
theorem map_eq_bind (outcome : Except CalcError α) (change : α → β) :
    outcome.map change = outcome >>= fun a => .ok (change a) := by
  -- A stopped computation carries its error through both sides, a finished one its value.
  cases outcome <;> rfl

/-- A chain has a value exactly if each of its links has one. -/
theorem bind_eq_ok_iff {outcome : Except CalcError α} {next : α → Except CalcError β} {b : β} :
    (outcome >>= next) = .ok b ↔ ∃ a, outcome = .ok a ∧ next a = .ok b := by
  -- Only a finished computation reaches what comes next, so there is one value to name.
  cases outcome <;> simp

/-- A chain that is malformed has a malformed link. -/
theorem bind_ne_malformed {outcome : Except CalcError α} {next : α → Except CalcError β}
    (first : outcome ≠ .error .malformed) (second : ∀ a, next a ≠ .error .malformed) :
    (outcome >>= next) ≠ .error .malformed := by
  -- Either the first computation stops, or its value runs into the second one.
  cases outcome with
  | error error => simpa using first
  | ok a => simpa using second a

/-- Where a chain is not malformed, its first link is not. -/
theorem ne_malformed_of_bind {outcome : Except CalcError α} {next : α → Except CalcError β}
    (sound : (outcome >>= next) ≠ .error .malformed) : outcome ≠ .error .malformed := by
  -- A first computation that is malformed stops the whole with that very error.
  rintro rfl
  exact sound rfl

end PocketCalculator
