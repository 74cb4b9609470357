import CompletionService.Proofs.JsonShapes
import CompletionService.Proofs.PlainText
import CompletionService.Proofs.Steps
import CompletionService.Response.Body

/-!
# Bodies and their texts

The texts that the handler sends are read as what was written.

* `StreamChunk.readAs_text`, `Completion.readAs_text` — chunks and envelopes, each under its shape.
* `Body` — what the handler says in one response, a chunk or an envelope. Its text has no line end
  (`Body.plain_text`) and is read as the body (`Body.isReadFrom_text`).
-/

namespace CompletionService

open Json

/-! ## Decoding what was encoded -/

namespace Decode

section

variable {α : Type} (key name : String) (j : Json) (rest : Members)
  (decode : Json → Except Mismatch α)

theorem members_object (wanted : Wanted) : members wanted (.object rest) = .ok rest := rfl

/-- The first member with the name of the field counts. -/
theorem field_cons : field ((key, j) :: rest) name decode =
    if name = key then decode j else field rest name decode := by
  simp only [field, Members.get?_cons]
  by_cases h : name = key
  · simp only [if_pos h]
  · simp only [if_neg h]

theorem optionalField_cons : optionalField ((key, j) :: rest) name decode =
    if name = key then nullable decode j else optionalField rest name decode := by
  simp only [optionalField, Members.get?_cons]
  by_cases h : name = key
  · simp only [if_pos h]
  · simp only [if_neg h]

end

theorem string_string (s : String) : string (.string s) = .ok s := rfl

theorem wholeIn_of_mem {lower upper : Int} (wanted : Wanted) {n : Whole}
    (h : lower ≤ n.val ∧ n.val < upper) : wholeIn lower upper wanted (.whole n) = .ok n.val := by
  rw [wholeIn, if_pos h]

theorem natural32_ofUInt32 (n : UInt32) : natural32 (ofUInt32 n) = .ok n := by
  have hlt := n.toNat_lt
  have hval : (Whole.ofUInt32 n).val = n.toNat := rfl
  rw [natural32, ofUInt32, wholeIn_of_mem _ (by omega), hval]
  exact congrArg Except.ok n.ofNat_toNat

theorem integer64_ofInt64 (n : Int64) : integer64 (.whole (.ofInt64 n)) = .ok n := by
  have hle := n.le_toInt
  have hlt := n.toInt_lt
  have hval : (Whole.ofInt64 n).val = n.toInt := rfl
  rw [integer64, wholeIn_of_mem _ (by omega), hval]
  exact congrArg Except.ok n.ofInt_toInt

section

variable {α : Type} {toJson : α → Json} {decode : Json → Except Mismatch α}

theorem nullable_ofOption (h : ∀ a, decode (toJson a) = .ok a) (hne : ∀ a, toJson a ≠ .null)
    (value? : Option α) : nullable decode (ofOption toJson value?) = .ok value? := by
  cases value? with
  | none => rfl
  | some a =>
    rw [ofOption, nullable]
    · rw [h a]
      rfl
    · exact hne a

theorem items_map {values : List α} (h : ∀ a ∈ values, decode (toJson a) = .ok a) :
    items decode (values.map toJson) = .ok values := by
  induction values with
  | nil => rfl
  | cons a values ih =>
    rw [List.forall_mem_cons] at h
    rw [List.map_cons, items, h.1, ih h.2]
    rfl

end

end Decode

/-! ## Chunks and envelopes -/

theorem reads_ofUInt32 (n : UInt32) : (Shape.scalar Decode.natural32).Reads 0 (ofUInt32 n) :=
  Shape.reads_whole (Decode.natural32_ofUInt32 n)

theorem head?_write_ofUInt32_ne (n : UInt32) : (ofUInt32 n).write.head? ≠ some 'n' := by
  rw [ofUInt32, write]
  exact head?_writeInt_ne _

theorem reads_string (s : String) : (Shape.scalar Decode.string).Reads 0 (.string s) :=
  Shape.reads_string (Decode.string_string s)

theorem head?_write_string_ne (s : String) : (Json.string s).write.head? ≠ some 'n' := by
  rw [write, writeString, List.head?_cons]
  decide

namespace StreamChunk

theorem ofJson_toJson (c : StreamChunk) : ofJson c.toJson = .ok c := by
  have htoken : Decode.nullable Decode.natural32 (ofOption ofUInt32 c.token) = .ok c.token :=
    Decode.nullable_ofOption Decode.natural32_ofUInt32 (by simp [ofUInt32]) c.token
  rw [ofJson, toJson, bind_of_eq_ok (Decode.members_object _ _)]
  simp only [Decode.field_cons, Decode.optionalField_cons, String.reduceEq, if_false, if_true]
  rw [bind_of_eq_ok (Decode.string_string _), bind_of_eq_ok htoken]
  rfl

theorem reads_toJson (c : StreamChunk) : shape.Reads 1 c.toJson :=
  .record _ (by decide) (.cons ⟨rfl, reads_string _, rfl⟩
    (.cons ⟨rfl, .ofOption reads_ofUInt32 head?_write_ofUInt32_ne c.token, rfl⟩ .nil))

/-- **A chunk is read** from its text. -/
theorem readAs_text (c : StreamChunk) : readAs shape ofJson c.toJson.text = .ok c :=
  Json.readAs_text c.reads_toJson (by decide) c.ofJson_toJson

end StreamChunk

namespace Usage

theorem ofJson_toJson (u : Usage) : ofJson u.toJson = .ok u := by
  rw [ofJson, toJson, bind_of_eq_ok (Decode.members_object _ _)]
  simp only [Decode.field_cons, String.reduceEq, if_false, if_true]
  rw [bind_of_eq_ok (Decode.natural32_ofUInt32 _), bind_of_eq_ok (Decode.natural32_ofUInt32 _),
    bind_of_eq_ok (Decode.natural32_ofUInt32 _)]
  rfl

theorem reads_toJson (u : Usage) : shape.Reads 1 u.toJson :=
  .record _ (by decide) (.cons ⟨rfl, reads_ofUInt32 _, rfl⟩ (.cons ⟨rfl, reads_ofUInt32 _, rfl⟩
    (.cons ⟨rfl, reads_ofUInt32 _, rfl⟩ .nil)))

end Usage

namespace Choice

variable {c : Choice} (h : c.logprobs = none)
include h

/-- A choice without probabilities. (Probabilities that are `null` would be read as none.) -/
theorem ofJson_toJson : ofJson c.toJson = .ok c := by
  have hreason : Decode.nullable Decode.string (ofOption .string c.finishReason) =
      .ok c.finishReason :=
    Decode.nullable_ofOption Decode.string_string (by simp) c.finishReason
  have hlogprobs : Decode.nullable .ok (ofOption id c.logprobs) = .ok c.logprobs := by
    rw [h]
    rfl
  rw [ofJson, toJson, bind_of_eq_ok (Decode.members_object _ _)]
  simp only [Decode.field_cons, Decode.optionalField_cons, String.reduceEq, if_false, if_true]
  rw [bind_of_eq_ok (Decode.natural32_ofUInt32 _), bind_of_eq_ok (Decode.string_string _),
    bind_of_eq_ok hlogprobs, bind_of_eq_ok hreason]
  rfl

theorem reads_toJson : shape.Reads 1 c.toJson := by
  refine .record _ (by decide) (.cons ⟨rfl, reads_ofUInt32 _, rfl⟩
    (.cons ⟨rfl, reads_string _, rfl⟩ (.cons ⟨rfl, ?_, rfl⟩ (.cons ⟨rfl, ?_, rfl⟩ .nil))))
  · rw [h]
    exact Shape.reads_null _
  · exact .ofOption reads_string head?_write_string_ne c.finishReason

end Choice

namespace Completion

/-- The envelope of an output has no probabilities. -/
theorem logprobs_ofOutput (requestId : String) (created : Int64) (output : CompletionOutput) :
    ∀ choice ∈ (ofOutput requestId created output).choices, choice.logprobs = none := by
  intro choice hmem
  rw [List.mem_singleton.mp hmem]

variable {c : Completion} (h : ∀ choice ∈ c.choices, choice.logprobs = none)
include h

theorem ofJson_toJson : ofJson c.toJson = .ok c := by
  have hchoices : Decode.list Choice.ofJson (.array (c.choices.map Choice.toJson)) =
      .ok c.choices :=
    Decode.items_map fun choice hmem => Choice.ofJson_toJson (h choice hmem)
  rw [ofJson, toJson, bind_of_eq_ok (Decode.members_object _ _)]
  simp only [Decode.field_cons, String.reduceEq, if_false, if_true]
  rw [bind_of_eq_ok (Decode.string_string _), bind_of_eq_ok (Decode.string_string _),
    bind_of_eq_ok (Decode.integer64_ofInt64 _), bind_of_eq_ok (Decode.string_string _),
    bind_of_eq_ok hchoices, bind_of_eq_ok (Usage.ofJson_toJson _)]
  rfl

theorem reads_toJson : shape.Reads 3 c.toJson := by
  have hstring (s : String) : (Shape.scalar Decode.string).Reads 2 (.string s) :=
    (reads_string s).mono (Nat.zero_le 2)
  have hcreated : (Shape.scalar Decode.integer64).Reads 2 (.whole (.ofInt64 c.created)) :=
    (Shape.reads_whole (Decode.integer64_ofInt64 c.created)).mono (Nat.zero_le 2)
  have hchoices : (Shape.list Choice.shape).Reads 2 (.array (c.choices.map Choice.toJson)) := by
    refine .list fun j hj => ?_
    obtain ⟨choice, hmem, rfl⟩ := List.mem_map.mp hj
    exact Choice.reads_toJson (h choice hmem)
  have husage : Usage.shape.Reads 2 c.usage.toJson := c.usage.reads_toJson.mono (Nat.le_succ 1)
  exact .record _ (by decide) (.cons ⟨rfl, hstring _, rfl⟩ (.cons ⟨rfl, hstring _, rfl⟩
    (.cons ⟨rfl, hcreated, rfl⟩ (.cons ⟨rfl, hstring _, rfl⟩ (.cons ⟨rfl, hchoices, rfl⟩
      (.cons ⟨rfl, husage, rfl⟩ .nil))))))

/-- **An envelope is read** from its text. -/
theorem readAs_text : readAs shape ofJson c.toJson.text = .ok c :=
  Json.readAs_text (reads_toJson h) (by decide) (ofJson_toJson h)

end Completion

/-! ## Bodies -/

/-- What the handler says in one response. -/
inductive Body
  | chunk (chunk : StreamChunk)
  | envelope (requestId : String) (created : Int64) (output : CompletionOutput)
  deriving DecidableEq

namespace Body

/-- The value that is written. -/
def toJson : Body → Json
  | .chunk c => c.toJson
  | .envelope requestId created output => (Completion.ofOutput requestId created output).toJson

/-- The body as it is sent. -/
def text (body : Body) : String := body.toJson.text

/-- A line that is read as the type of the body gives the body. -/
def IsReadFrom (line : String) : Body → Prop
  | .chunk c => readAs StreamChunk.shape StreamChunk.ofJson line = .ok c
  | .envelope requestId created output =>
    readAs Completion.shape Completion.ofJson line =
      .ok (Completion.ofOutput requestId created output)

theorem plain_text (body : Body) : Plain body.text.toList := by
  rw [text, Json.text, String.toList_ofList]
  exact plain_write body.toJson

/-- No octet of it is a control character. -/
theorem octets_text (body : Body) : ∀ octet ∈ body.text.toUTF8.data, 0x20 ≤ octet.toNat :=
  (plain_write body.toJson).octets

/-- **Every body is read** from its text. -/
theorem isReadFrom_text (body : Body) : body.IsReadFrom body.text := by
  cases body with
  | chunk c => exact c.readAs_text
  | envelope requestId created output =>
    exact Completion.readAs_text (Completion.logprobs_ofOutput requestId created output)

end Body

end CompletionService
