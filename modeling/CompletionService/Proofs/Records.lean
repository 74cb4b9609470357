import CompletionService.Engine.Args
import CompletionService.Engine.Sampling
import CompletionService.Proofs.FieldTypes
import CompletionService.Proofs.Members

/-!
# Overriding the fields of records

A type of records has a table of its fields: for each the name, the type and the way to get it from
a record (`Record.fields`). Its JSON form writes every field and reads every field, and fails where
a field does. The sampling parameters and the engine arguments are such types.

All that `merge` does with a record follows from its table. A field is decoded from the override of
its name, or else from what is written for the target (`merge_eq_ok_iff`); as what is written for a
value stands for that value unless it is an infinity, overrides do to a target without infinities
what they say, field by field, and nothing else (`merge_eq_ok_iff_overwritten`).
-/

namespace CompletionService

open Json

/-! ## Fields -/

/-- A field of the records of a type. -/
structure RecordField (α : Type) where
  name : String
  type : FieldType
  get : α → type.Value

/-- The value of that name among the members, of a type. What may be absent may be missing. -/
def FieldType.read (members : Members) (name : String) :
    (type : FieldType) → Except Mismatch type.Value
  | .optional type => Decode.optionalField members name type.decode
  | type => Decode.field members name type.decode

/-- A member that is there is decoded. -/
theorem FieldType.read_of_get? {members : Members} {name : String} {j : Json}
    (h : members.get? name = some j) (type : FieldType) :
    type.read members name = type.decode j := by
  cases type with
  | optional type => simp only [read, Decode.optionalField, h, decode]
  | _ => simp only [read, Decode.field, h]

namespace RecordField

variable {α : Type} (field : RecordField α)

/-- The value of the field, from the members of an object. -/
def read (members : Members) : Except Mismatch field.type.Value :=
  field.type.read members field.name

/-- The member that is written for the field of a record. -/
def write (a : α) : String × Json := (field.name, field.type.encode (field.get a))

end RecordField

/-- A type of records, with the fields that its JSON form has. -/
class Record (α : Type) [JsonForm α] where
  fields : List (RecordField α)
  nodup_names : (fields.map (·.name)).Nodup
  /-- every field is written -/
  toJson_eq : ∀ a : α, JsonForm.toJson a = .object (fields.map (·.write a))
  /-- every field is read -/
  ofJson_eq_ok_iff : ∀ {members : Members} {a : α},
    JsonForm.ofJson (.object members) = .ok a ↔
      ∀ field ∈ fields, field.read members = .ok (field.get a)
  /-- nothing else can go wrong -/
  exists_of_ofJson_eq_error : ∀ {members : Members} {mismatch : Mismatch},
    (JsonForm.ofJson (.object members) : Except Mismatch α) = .error mismatch →
      ∃ field ∈ fields, field.read members = .error mismatch

/-! ## Sampling parameters -/

namespace SamplingParams

/-- The fields of sampling parameters. -/
def fields : List (RecordField SamplingParams) := [
  ⟨"n", .plain .size, (·.n)⟩,
  ⟨"presence_penalty", .real32, (·.presencePenalty)⟩,
  ⟨"frequency_penalty", .real32, (·.frequencyPenalty)⟩,
  ⟨"repetition_penalty", .real32, (·.repetitionPenalty)⟩,
  ⟨"temperature", .real32, (·.temperature)⟩,
  ⟨"top_p", .real32, (·.topP)⟩,
  ⟨"top_k", .plain .integer32, (·.topK)⟩,
  ⟨"min_p", .real32, (·.minP)⟩,
  ⟨"seed", .optional .natural64, (·.seed)⟩,
  ⟨"stop", .oneOrMany, (·.stop)⟩,
  ⟨"stop_token_ids", .list .natural32, (·.stopTokenIds)⟩,
  ⟨"ignore_eos", .plain .boolean, (·.ignoreEos)⟩,
  ⟨"max_tokens", .optional .size, (·.maxTokens)⟩,
  ⟨"min_tokens", .plain .size, (·.minTokens)⟩,
  ⟨"skip_special_tokens", .plain .boolean, (·.skipSpecialTokens)⟩]

variable {members : Members}

/-- The parameters are read if every field is. -/
theorem ofMembers_eq_ok_iff {p : SamplingParams} :
    ofMembers members = .ok p ↔ ∀ field ∈ fields, field.read members = .ok (field.get p) := by
  cases p
  simp only [fields, List.forall_mem_cons, RecordField.read, FieldType.read, FieldType.decode,
    PlainType.decode, ofMembers, bind_eq_ok_iff, pure, Except.pure, Except.ok.injEq, mk.injEq]
  constructor
  · simp only [forall_exists_index, and_imp]
    intros
    simp_all
  · simp_all

/-- They are not read because some field is not. -/
theorem exists_of_ofMembers_eq_error {mismatch : Mismatch}
    (h : ofMembers members = .error mismatch) :
    ∃ field ∈ fields, field.read members = .error mismatch := by
  simp only [fields, List.exists_mem_cons_iff, RecordField.read, FieldType.read, FieldType.decode,
    PlainType.decode]
  unfold ofMembers at h
  iterate 15
    rcases of_bind_eq_error h with h | ⟨_, -, h⟩
    · simp only [h, true_or, or_true]
  cases h

instance : Record SamplingParams where
  fields := fields
  nodup_names := by decide
  toJson_eq _ := rfl
  ofJson_eq_ok_iff := ofMembers_eq_ok_iff
  exists_of_ofJson_eq_error := exists_of_ofMembers_eq_error

end SamplingParams

/-! ## Engine arguments -/

namespace EngineArgs

/-- The fields of engine arguments. -/
def fields : List (RecordField EngineArgs) := [
  ⟨"model", .plain .string, (·.model)⟩,
  ⟨"tokenizer", .optional .string, (·.tokenizer)⟩,
  ⟨"revision", .optional .string, (·.revision)⟩,
  ⟨"dtype", .plain .string, (·.dtype)⟩,
  ⟨"seed", .plain .natural64, (·.seed)⟩,
  ⟨"max_model_len", .optional .size, (·.maxModelLen)⟩,
  ⟨"tensor_parallel_size", .plain .size, (·.tensorParallelSize)⟩,
  ⟨"gpu_memory_utilization", .real64, (·.gpuMemoryUtilization)⟩,
  ⟨"max_num_seqs", .plain .size, (·.maxNumSeqs)⟩,
  ⟨"enable_lora", .plain .boolean, (·.enableLora)⟩,
  ⟨"max_loras", .plain .size, (·.maxLoras)⟩,
  ⟨"max_lora_rank", .plain .size, (·.maxLoraRank)⟩,
  ⟨"trust_remote_code", .plain .boolean, (·.trustRemoteCode)⟩,
  ⟨"disable_log_requests", .plain .boolean, (·.disableLogRequests)⟩]

variable {members : Members}

/-- The arguments are read if every field is. -/
theorem ofMembers_eq_ok_iff {a : EngineArgs} :
    ofMembers members = .ok a ↔ ∀ field ∈ fields, field.read members = .ok (field.get a) := by
  cases a
  simp only [fields, List.forall_mem_cons, RecordField.read, FieldType.read, FieldType.decode,
    PlainType.decode, ofMembers, bind_eq_ok_iff, pure, Except.pure, Except.ok.injEq, mk.injEq]
  constructor
  · simp only [forall_exists_index, and_imp]
    intros
    simp_all
  · simp_all

/-- They are not read because some field is not. -/
theorem exists_of_ofMembers_eq_error {mismatch : Mismatch}
    (h : ofMembers members = .error mismatch) :
    ∃ field ∈ fields, field.read members = .error mismatch := by
  simp only [fields, List.exists_mem_cons_iff, RecordField.read, FieldType.read, FieldType.decode,
    PlainType.decode]
  unfold ofMembers at h
  iterate 14
    rcases of_bind_eq_error h with h | ⟨_, -, h⟩
    · simp only [h, true_or, or_true]
  cases h

instance : Record EngineArgs where
  fields := fields
  nodup_names := by decide
  toJson_eq _ := rfl
  ofJson_eq_ok_iff := ofMembers_eq_ok_iff
  exists_of_ofJson_eq_error := exists_of_ofMembers_eq_error

end EngineArgs

/-! ## Overrides -/

namespace RecordField

variable {α : Type} (field : RecordField α) (target : α) (overrides : Members)

/-- The override of the field, or else what is written for the target. -/
def source : Json := (overrides.get? field.name).getD (field.type.encode (field.get target))

/-- It stands for what the override does, or else for the value of the target unless that is an
infinity. -/
theorem denotes_source_iff {value : field.type.Value} :
    field.type.Denotes (field.source target overrides) value ↔
      match overrides.get? field.name with
      | some j => field.type.Denotes j value
      | none => field.type.IsFinite (field.get target) ∧ field.get target = value := by
  rw [source]
  cases overrides.get? field.name with
  | some j => rfl
  | none => exact FieldType.denotes_encode_iff

end RecordField

namespace Record

variable {α : Type} [JsonForm α] [Record α] {field : RecordField α} {target merged : α}
  {overrides overrides' : Members}

/-- No field is an infinity. -/
def IsFinite (a : α) : Prop :=
  ∀ field : RecordField α, field ∈ fields → field.type.IsFinite (field.get a)

instance (a : α) : Decidable (IsFinite a) :=
  inferInstanceAs (Decidable (∀ field ∈ fields, field.type.IsFinite (field.get a)))

/-- Every override of a field is accepted as a value of the field. -/
def Accepts (α : Type) [JsonForm α] [Record α] (overrides : Members) : Prop :=
  ∀ field : RecordField α, field ∈ fields → ∀ j ∈ overrides.get? field.name, field.type.Accepts j

instance : Decidable (Accepts α overrides) :=
  inferInstanceAs (Decidable (∀ field : RecordField α, field ∈ fields →
    ∀ j ∈ overrides.get? field.name, field.type.Accepts j))

/-- The record has the overridden fields of the overrides and the other fields of the target. -/
structure Overwritten (target : α) (overrides : Members) (merged : α) : Prop where
  named : ∀ field : RecordField α, field ∈ fields → ∀ j ∈ overrides.get? field.name,
    field.type.Denotes j (field.get merged)
  unnamed : ∀ field : RecordField α, field ∈ fields → overrides.get? field.name = none →
    field.get merged = field.get target

/-- A field finds its source among the members from which the outcome is read. -/
theorem read_overlay (hmem : field ∈ fields) (target : α) (overrides : Members) :
    field.read (Members.overlay (fields.map (·.write target)) overrides) =
      field.type.decode (field.source target overrides) := by
  refine FieldType.read_of_get? ?_ field.type
  have hnames : ((fields.map (·.write target)).map (·.1)).Nodup := by
    rw [List.map_map]
    exact nodup_names
  have hget : Members.get? (fields.map (·.write target)) field.name =
      some (field.type.encode (field.get target)) :=
    Members.get?_of_mem hnames (List.mem_map_of_mem (f := (·.write target)) hmem)
  rw [Members.get?_overlay, hget]
  rfl

theorem merge_eq_ofJson (target : α) (overrides : Members) : merge target overrides =
    JsonForm.ofJson (.object (Members.overlay (fields.map (·.write target)) overrides)) := by
  rw [merge, toJson_eq]

/-- **Merging is done field by field**: each is what its source stands for. -/
theorem merge_eq_ok_iff : merge target overrides = .ok merged ↔
    ∀ field ∈ fields, field.type.Denotes (field.source target overrides) (field.get merged) := by
  rw [merge_eq_ofJson, ofJson_eq_ok_iff]
  refine forall₂_congr fun field hmem => ?_
  rw [read_overlay hmem, FieldType.decode_eq_ok_iff]

/-- Merging is possible if every source is accepted. -/
theorem exists_merge_iff : (∃ merged, merge target overrides = .ok merged) ↔
    ∀ field : RecordField α, field ∈ fields →
      field.type.Accepts (field.source target overrides) := by
  constructor
  · rintro ⟨merged, h⟩ field hmem
    exact FieldType.accepts_iff.mpr ⟨field.get merged, merge_eq_ok_iff.mp h field hmem⟩
  · intro h
    cases hmerge : merge target overrides with
    | ok merged => exact ⟨merged, rfl⟩
    | error mismatch =>
      rw [merge_eq_ofJson] at hmerge
      obtain ⟨field, hmem, hread⟩ := exists_of_ofJson_eq_error hmerge
      obtain ⟨a, ha⟩ := FieldType.accepts_iff.mp (h field hmem)
      rw [read_overlay hmem, FieldType.decode_eq_ok_iff.mpr ha] at hread
      exact nomatch hread

/-- Only the overrides of fields count. -/
theorem merge_congr (target : α)
    (h : ∀ field : RecordField α, field ∈ fields →
      overrides.get? field.name = overrides'.get? field.name) :
    merge target overrides = merge target overrides' := by
  have hoverlay : Members.overlay (fields.map (·.write target)) overrides =
      Members.overlay (fields.map (·.write target)) overrides' := by
    refine Members.overlay_congr fun m hm => ?_
    obtain ⟨field, hmem, rfl⟩ := List.mem_map.mp hm
    exact h field hmem
  rw [merge_eq_ofJson, merge_eq_ofJson, hoverlay]

/-- **Merging into a target without infinities** gives the record that the overrides say. -/
theorem merge_eq_ok_iff_overwritten (hfinite : IsFinite target) :
    merge target overrides = .ok merged ↔ Overwritten target overrides merged := by
  rw [merge_eq_ok_iff]
  constructor
  · intro h
    refine ⟨fun field hmem j hj => ?_, fun field hmem hnone => ?_⟩
    · have hsource := (field.denotes_source_iff target overrides).mp (h field hmem)
      rwa [hj] at hsource
    · have hsource := (field.denotes_source_iff target overrides).mp (h field hmem)
      rw [hnone] at hsource
      exact hsource.2.symm
  · rintro ⟨hnamed, hunnamed⟩ field hmem
    rw [RecordField.denotes_source_iff]
    cases hget : overrides.get? field.name with
    | some j => exact hnamed field hmem j hget
    | none => exact ⟨hfinite field hmem, (hunnamed field hmem hget).symm⟩

/-- It is possible if the overrides are accepted. -/
theorem exists_merge_iff_accepts (hfinite : IsFinite target) :
    (∃ merged, merge target overrides = .ok merged) ↔ Accepts α overrides := by
  rw [exists_merge_iff]
  refine forall₂_congr fun field hmem => ?_
  simp only [FieldType.accepts_iff, RecordField.denotes_source_iff]
  cases overrides.get? field.name with
  | some j => simp
  | none => simp [hfinite field hmem]

/-- What it means to merge field by field. -/
structure MergesByField (target : α) (overrides : Members) : Prop where
  /-- It is possible if every override of a field is accepted as a value of the field. -/
  possible : (∃ merged, merge target overrides = .ok merged) ↔ Accepts α overrides
  /-- The overridden fields are what the overrides say, the others are those of the target. -/
  outcome : ∀ merged, merge target overrides = .ok merged ↔ Overwritten target overrides merged
  /-- Members that are no fields have no effect. -/
  onlyFields : ∀ overrides' : Members,
    (∀ field : RecordField α, field ∈ fields →
      overrides.get? field.name = overrides'.get? field.name) →
    merge target overrides = merge target overrides'

/-- Records without infinities are merged field by field. -/
theorem mergesByField (hfinite : IsFinite target) (overrides : Members) :
    MergesByField target overrides where
  possible := exists_merge_iff_accepts hfinite
  outcome _ := merge_eq_ok_iff_overwritten hfinite
  onlyFields _ h := merge_congr target h

end Record

/-- The default parameters hold no infinity. -/
theorem SamplingParams.isFinite_default : Record.IsFinite SamplingParams.default := by
  decide +kernel

/-- **Sampling parameters and engine arguments without infinities are merged field by field**, with
any overrides. -/
theorem records_merge_by_field :
    (∀ target : SamplingParams, Record.IsFinite target → ∀ overrides : Members,
      Record.MergesByField target overrides) ∧
    (∀ target : EngineArgs, Record.IsFinite target → ∀ overrides : Members,
      Record.MergesByField target overrides) :=
  ⟨fun _ hfinite => Record.mergesByField hfinite, fun _ hfinite => Record.mergesByField hfinite⟩

/-- One text to stop at is given, another member is no parameter, and the greatest seed and a
temperature of 0.1 stay; so does the seed of an engine that gets its model. -/
theorem records_merge_by_field_stop :
    let target := { SamplingParams.default with
      temperature := .ofDecimal _ false 1 (-1), seed := some 18446744073709551615 }
    (∃ merged, merge target [("stop", .string "END"), ("prompt", .null)] = .ok merged ∧
      merged.stop = ["END"] ∧ merged.temperature = target.temperature ∧
      merged.seed = target.seed) ∧
    ∃ merged, merge (EngineArgs.ofModel "") [("model", .string "m")] = .ok merged ∧
      merged.model = "m" ∧ merged.seed = 0 := by
  intro target
  constructor
  · have hfinite : Record.IsFinite target := by decide +kernel
    have hmerges := records_merge_by_field.1 target hfinite
      [("stop", .string "END"), ("prompt", .null)]
    obtain ⟨merged, hmerged⟩ := hmerges.possible.mpr (by decide +kernel)
    obtain ⟨hnamed, hunnamed⟩ := (hmerges.outcome merged).mp hmerged
    have hstop := hnamed ⟨"stop", .oneOrMany, (·.stop)⟩
      (by simp [Record.fields, SamplingParams.fields]) (.string "END") rfl
    have htemperature := hunnamed ⟨"temperature", .real32, (·.temperature)⟩
      (by simp [Record.fields, SamplingParams.fields]) rfl
    have hseed := hunnamed ⟨"seed", .optional .natural64, (·.seed)⟩
      (by simp [Record.fields, SamplingParams.fields]) rfl
    dsimp only at htemperature hseed
    exact ⟨merged, hmerged, by simpa [FieldType.Denotes] using hstop, htemperature, hseed⟩
  · have hfinite : Record.IsFinite (EngineArgs.ofModel "") := by decide +kernel
    have hmerges := records_merge_by_field.2 (EngineArgs.ofModel "") hfinite
      [("model", .string "m")]
    obtain ⟨merged, hmerged⟩ := hmerges.possible.mpr (by decide +kernel)
    obtain ⟨hnamed, hunnamed⟩ := (hmerges.outcome merged).mp hmerged
    have hmodel := hnamed ⟨"model", .plain .string, (·.model)⟩
      (by simp [Record.fields, EngineArgs.fields]) (.string "m") rfl
    have hseed := hunnamed ⟨"seed", .plain .natural64, (·.seed)⟩
      (by simp [Record.fields, EngineArgs.fields]) rfl
    exact ⟨merged, hmerged, (Json.string.inj hmodel).symm, hseed⟩

end CompletionService
