import Mathlib.Logic.Basic

/-!
# Steps that may fail

One step after another, each of which may fail: when both go well, and where the failure comes from.
-/

namespace CompletionService

variable {ε α β : Type} {result : Except ε α} {next : α → Except ε β}

/-- After a step that goes well, the next one counts. -/
theorem bind_of_eq_ok {a : α} (h : result = .ok a) (next : α → Except ε β) :
    (result >>= next) = next a := by
  rw [h]
  rfl

/-- Two steps go well exactly if both do. -/
theorem bind_eq_ok_iff {b : β} :
    result >>= next = .ok b ↔ ∃ a, result = .ok a ∧ next a = .ok b := by
  cases result <;> simp [bind, Except.bind]

/-- Two steps go well if both do. -/
theorem exists_of_bind_eq_ok {b : β} (h : result >>= next = .ok b) :
    ∃ a, result = .ok a ∧ next a = .ok b :=
  bind_eq_ok_iff.mp h

/-- Two steps fail where the first or the second does. -/
theorem of_bind_eq_error {e : ε} (h : result >>= next = .error e) :
    result = .error e ∨ ∃ a, result = .ok a ∧ next a = .error e := by
  cases result with
  | error e' => exact .inl (congrArg _ (Except.error.inj h))
  | ok a => exact .inr ⟨a, rfl, h⟩

/-- What a step gives may be taken for something else. -/
theorem map_eq_ok_iff {f : α → β} {b : β} :
    f <$> result = .ok b ↔ ∃ a, result = .ok a ∧ f a = b := by
  cases result <;> simp [Functor.map, Except.map]

end CompletionService
