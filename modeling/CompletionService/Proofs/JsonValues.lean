import CompletionService.Proofs.JsonShapes

/-!
# Values that are read from their texts

A value can be more than its text says: an object may have a key twice, or its keys in any order,
and a number that is not whole is read by steps that are rounded. `Orderly` leaves these out, and
bounds how many containers are open at a time. **An orderly value is read from its text**, whatever
stands behind it (`Orderly.reads`) and from the whole text (`Orderly.parse_text`).

The induction is on the containers. Where a value is wanted of which nothing is known, an array is
read like a list and an object like a map (`any_bracket`, `any_brace`), so the lemmas on shapes are
the cases of the induction.
-/

namespace CompletionService.Json

/-- The numbers in the value are whole, the keys of every object ascend, and no more than `depth`
containers are open in it at a time. -/
inductive Orderly : (depth : Nat) → Json → Prop
  | null {depth : Nat} : Orderly depth .null
  | boolean {depth : Nat} (b : Bool) : Orderly depth (.boolean b)
  | whole {depth : Nat} (n : Whole) : Orderly depth (.whole n)
  | string {depth : Nat} (s : String) : Orderly depth (.string s)
  | array {depth : Nat} {items : List Json} (hitems : ∀ j ∈ items, Orderly depth j) :
      Orderly (depth + 1) (.array items)
  | object {depth : Nat} {members : Members} (hkeys : members.Pairwise (·.1 < ·.1))
      (hvalues : ∀ m ∈ members, Orderly depth m.2) : Orderly (depth + 1) (.object members)

variable {depth : Nat} {j : Json}

/-! ## Words -/

/-- `null` is read as a value. -/
theorem readValue_null (steps depth : Nat) (rest : List Char) :
    readValue steps depth ("null".toList ++ rest) = .ok (.null, rest) := by
  have htext : "null".toList ++ rest = 'n' :: 'u' :: 'l' :: 'l' :: rest := rfl
  rw [htext, readValue]
  simp [skipBlank_cons (show isBlank 'n' = false by decide), readWord]

/-- Truth values are read. -/
theorem readValue_boolean (steps depth : Nat) (b : Bool) (rest : List Char) :
    readValue steps depth ((Json.boolean b).write ++ rest) = .ok (.boolean b, rest) := by
  cases b with
  | true =>
    have htext : (Json.boolean true).write ++ rest = 't' :: 'r' :: 'u' :: 'e' :: rest := by
      rw [write]
      rfl
    rw [htext, readValue]
    simp [skipBlank_cons (show isBlank 't' = false by decide), readWord]
  | false =>
    have htext : (Json.boolean false).write ++ rest =
        'f' :: 'a' :: 'l' :: 's' :: 'e' :: rest := by
      rw [write]
      rfl
    rw [htext, readValue]
    simp [skipBlank_cons (show isBlank 'f' = false by decide), readWord]

/-! ## Containers -/

namespace Shape

/-- A value that begins like an array is read like a list of values. -/
theorem any_bracket (steps depth : Nat) (rest : List Char) :
    any steps depth ('[' :: rest) = list any steps depth ('[' :: rest) := by
  have hskip := skipBlank_cons (show isBlank '[' = false by decide) rest
  cases depth with
  | zero => simp [any, list, readValue, hskip]
  | succ depth => simp [any, list, readValue, hskip]

/-- A value that begins like an object is read like a map of values. -/
theorem any_brace (steps depth : Nat) (rest : List Char) :
    any steps depth ('{' :: rest) = map any steps depth ('{' :: rest) := by
  have hskip := skipBlank_cons (show isBlank '{' = false by decide) rest
  cases depth with
  | zero => simp [any, map, readValue, hskip]
  | succ depth => simp [any, map, readValue, hskip]

end Shape

/-! ## Orderly values -/

namespace Orderly

/-- **An orderly value is read from its text**, whatever stands behind it. -/
theorem reads (h : Orderly depth j) : Shape.any.Reads depth j := by
  induction h with
  | null => exact ⟨⟨rfl, by decide⟩, fun _ _ _ => readValue_null _ _ _⟩
  | boolean b =>
    refine ⟨?_, fun _ _ _ => readValue_boolean _ _ b _⟩
    cases b <;> exact ⟨rfl, by decide⟩
  | whole n =>
    have hscalar : (Shape.scalar fun _ => .ok ()).Reads 0 (.whole n) := Shape.reads_whole rfl
    exact ⟨hscalar.opens, fun _ _ hstops => readValue_whole _ n hstops⟩
  | string s =>
    refine ⟨⟨rfl, by decide⟩, fun hsteps _ _ => ?_⟩
    exact readValue_string _ s (Nat.le_succ_of_le (Nat.le_of_lt hsteps))
  | @array depth items _ ih =>
    have hlist := Shape.Reads.list ih
    refine ⟨hlist.opens, fun hsteps hdepth hstops => ?_⟩
    have hread := hlist.read hsteps hdepth hstops
    rw [write, writeItems, List.cons_append] at hread ⊢
    rw [Shape.any_bracket, hread]
  | @object depth members hkeys _ ih =>
    have hmap := Shape.Reads.map hkeys ih
    refine ⟨hmap.opens, fun hsteps hdepth hstops => ?_⟩
    have hread := hmap.read hsteps hdepth hstops
    rw [write_object_append] at hread ⊢
    rw [Shape.any_brace, hread]

/-- It is read from its text alone. -/
theorem parse_text (h : Orderly depth j) (hdepth : depth ≤ depthLimit) :
    parse j.text = .ok j := by
  have hparse : parse j.text = parseAs Shape.any j.text := rfl
  rw [hparse, parseAs_text h.reads hdepth]

end Orderly

end CompletionService.Json
