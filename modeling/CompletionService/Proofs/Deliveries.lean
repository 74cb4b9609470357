import CompletionService.Handler.Run
import CompletionService.Proofs.JsonValues
import CompletionService.Proofs.Octets

/-!
# Ways to deliver a request

A host hands over the object of a request decoded or as the octets of its text, and in one of two
places. `RequestItem.Delivers` says which items deliver an object. **All of them are decoded as that
object** (`RequestItem.Delivers.decodePayload_eq`), so whatever is made of a request, in whatever
state of the adapters, is the same for each of them (`deliveries_agree`).

The object has to be orderly, which every object is that a host can hold whose numbers are whole; in
its text no more than `Json.depthLimit` containers may be open at a time.
-/

namespace CompletionService

open Json

variable {members : Members} {item : RequestItem}

/-- The payload holds the object, decoded or as the octets of its compact text. -/
inductive Payload.Holds (members : Members) : Payload → Prop
  | decoded : Holds members (.json members)
  | octets : Holds members (.bytes (Json.object members).text.toUTF8)

/-- The item delivers the object: in `data`, if it is not empty, whatever `body` holds; or in `body`,
if `data` is missing or empty. -/
inductive RequestItem.Delivers (members : Members) : RequestItem → Prop
  | data {payload : Payload} {body : Option Payload} (h : payload.Holds members)
      (hne : members ≠ []) : Delivers members { data := some payload, body }
  | body {payload : Payload} {data : Option Payload} (h : payload.Holds members)
      (hempty : ∀ other ∈ data, other.isEmpty) : Delivers members { data, body := some payload }

/-- The text of an object is not empty, even if the object is. -/
theorem Payload.Holds.isEmpty_eq {payload : Payload} (h : payload.Holds members)
    (hne : members ≠ []) : payload.isEmpty = false := by
  cases h with
  | decoded => exact List.isEmpty_eq_false_iff.mpr hne
  | octets =>
    rw [isEmpty, text, ← Bool.not_eq_true, Text.isEmpty_toUTF8_ofList, write_object]
    exact List.cons_ne_nil _ _

namespace RequestItem

/-- The payload that counts holds the object. -/
theorem Delivers.exists_payload? (h : item.Delivers members) :
    ∃ payload, item.payload? = some payload ∧ payload.Holds members := by
  cases h with
  | @data payload body hholds hne =>
    refine ⟨payload, ?_, hholds⟩
    rw [payload?, Option.filter_some, hholds.isEmpty_eq hne]
    rfl
  | @body payload data hholds hempty =>
    refine ⟨payload, ?_, hholds⟩
    have hnone : data.filter (!·.isEmpty) = none := by
      rw [Option.filter_eq_none_iff]
      intro other hother
      simp [hempty other hother]
    rw [payload?, hnone]

/-- **An orderly object is decoded as itself**, however it is delivered. -/
theorem Delivers.decodePayload_eq (h : item.Delivers members)
    (horderly : Orderly depthLimit (.object members)) : decodePayload item = .ok members := by
  obtain ⟨payload, hpayload, hholds⟩ := h.exists_payload?
  rw [decodePayload, hpayload]
  cases hholds with
  | decoded => rfl
  | octets =>
    have hparse := horderly.parse_text (Nat.le_refl depthLimit)
    simp only [Text.decodeUtf8_toUTF8, decodeText, hparse]

end RequestItem

/-- **Deliveries agree**: whatever delivers an orderly object is decoded as that object, and
preprocessing does the same for all that deliver it, from the same state of the adapters: it gives
the same request or the same error, and leaves the same adapters. -/
theorem deliveries_agree (h : Orderly depthLimit (.object members)) :
    (∀ item : RequestItem, item.Delivers members → decodePayload item = .ok members) ∧
    ∀ item other : RequestItem, item.Delivers members → other.Delivers members →
      ∀ (adapters : AdapterTable) (ctx : Context),
        preprocess adapters [item] ctx = preprocess adapters [other] ctx := by
  refine ⟨fun item hitem => hitem.decodePayload_eq h, ?_⟩
  intro item other hitem hother adapters ctx
  rw [preprocess, preprocess, hitem.decodePayload_eq h, hother.decodePayload_eq h]

/-- A request with the largest and the smallest whole number, containers in containers, a key and a
text that are escaped, and letters of several octets. -/
def nestedRequest : Members :=
  [("lora_adapter", .null),
   ("max_tokens", .whole ⟨18446744073709551615, by decide, by decide⟩),
   ("prompt", .string "\"café\"\n\\ 𝄞"),
   ("say\t\"é\"", .array [.object [("", .boolean true), ("a", .array [])],
     .whole ⟨-9223372036854775808, by decide, by decide⟩])]

/-- The octets in `data`, with what is no object in `body`, and the object in `body`, behind an empty
`data`. -/
theorem deliveries_agree_nested :
    Orderly depthLimit (.object nestedRequest) ∧
    decodePayload { data := some (.bytes (Json.object nestedRequest).text.toUTF8),
                    body := some (.bytes "[".toUTF8) } = .ok nestedRequest ∧
    preprocess { modelDir := "/models", paths := [("style", "style")] }
        [{ data := some (.bytes (Json.object nestedRequest).text.toUTF8),
           body := some (.bytes "[".toUTF8) }] { requestIds := ["1"] } =
      preprocess { modelDir := "/models", paths := [("style", "style")] }
        [{ data := some (.json []), body := some (.json nestedRequest) }]
        { requestIds := ["1"] } := by
  have horderly : Orderly depthLimit (.object nestedRequest) := by
    refine .object (by decide) ?_
    intro m hm
    simp only [nestedRequest, List.mem_cons, List.not_mem_nil, or_false] at hm
    rcases hm with rfl | rfl | rfl | rfl
    · exact .null
    · exact .whole _
    · exact .string _
    · refine .array ?_
      intro j hj
      simp only [List.mem_cons, List.not_mem_nil, or_false] at hj
      rcases hj with rfl | rfl
      · refine .object (by decide) ?_
        intro m hm
        simp only [List.mem_cons, List.not_mem_nil, or_false] at hm
        rcases hm with rfl | rfl
        · exact .boolean true
        · exact .array nofun
      · exact .whole _
  have hne : nestedRequest ≠ [] := List.cons_ne_nil _ _
  have hempty : ∀ other ∈ some (Payload.json []), other.isEmpty := by
    rintro other ⟨⟩
    rfl
  obtain ⟨hdecoded, hpreprocessed⟩ := deliveries_agree horderly
  refine ⟨horderly, hdecoded _ (.data .octets hne), ?_⟩
  exact hpreprocessed _ _ (.data .octets hne) (.body .decoded hempty) _ _

end CompletionService
