import CompletionService.Json.Decode

/-!
# Overriding fields by name

A record type has a JSON form, an object with a member for every field. `merge` replaces in it the
members that an object of overrides names and decodes the outcome, so a field takes an override
exactly if the override decodes as that field, and names that are no field have no effect.
-/

namespace CompletionService

/-- A type with a JSON form. -/
class JsonForm (α : Type) where
  toJson : α → Json
  ofJson : Json → Except Mismatch α

/-- Every value is its own form. -/
instance : JsonForm Json := ⟨id, .ok⟩

/-- The target, where every field that `overrides` names has the value given there. -/
def merge {α : Type} [JsonForm α] (target : α) (overrides : Members) : Except Mismatch α :=
  match JsonForm.toJson target with
  | .object members => JsonForm.ofJson (.object (Members.overlay members overrides))
  | other => .error (.notARecord other)

end CompletionService
