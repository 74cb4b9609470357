import CompletionService.Proofs.Records

/-!
# Merging twice

Overrides of overrides are those of the first object, key by key overridden by the second
(`Members.override`). Merging one object after the other is merging that object at once, as far as
the record in between can be written (`Record.merge_iff_merge_override`): a field that it holds and
that the second object does not name has to be no infinity.

A record in between can hold an infinity, although no JSON number is one: a number that single
precision has no room for is decoded as the infinity next to it, which is then written as `null`.
Nothing can be merged into such a record unless the field is named again
(`infinity_stops_merging`).
-/

namespace CompletionService

open Number

/-! ## Records in between -/

namespace Record

variable {α : Type} [JsonForm α] [Record α] {target first second : α}
  {overrides overrides' : Members}

/-- The fields that the overrides do not name are no infinities. -/
def FiniteOutside (overrides : Members) (a : α) : Prop :=
  ∀ field : RecordField α, field ∈ fields → overrides.get? field.name = none →
    field.type.IsFinite (field.get a)

/-- **Merging one object after another** is merging both at once, if what the second one does not
name is no infinity by then. -/
theorem merge_iff_merge_override (h : merge target overrides = .ok first) :
    merge first overrides' = .ok second ↔
      merge target (overrides.override overrides') = .ok second ∧
        FiniteOutside overrides' first := by
  rw [merge_eq_ok_iff] at h
  simp only [merge_eq_ok_iff, FiniteOutside, ← forall₂_and]
  refine forall₂_congr fun field hmem => ?_
  -- the value in between is what the source of the field stands for
  have hvalue {value : field.type.Value} :
      field.type.Denotes (field.source target overrides) value ↔ field.get first = value :=
    ⟨(h field hmem).unique, fun heq => heq ▸ h field hmem⟩
  rw [RecordField.denotes_source_iff, RecordField.source, Members.get?_override]
  cases overrides'.get? field.name with
  | some j => simp
  | none =>
    rw [Option.none_or, ← RecordField.source, hvalue]
    simp [and_comm]

/-- Merging nothing gives the record back, if it holds no infinity. -/
theorem merge_nil_iff : merge target [] = .ok target ↔ IsFinite target := by
  rw [merge_eq_ok_iff]
  refine forall₂_congr fun field _ => ?_
  rw [RecordField.denotes_source_iff]
  simp

/-- Merging the same object again gives the record back, if no other field is an infinity. -/
theorem merge_again_iff (h : merge target overrides = .ok first) :
    merge first overrides = .ok first ↔ FiniteOutside overrides first := by
  have hself : merge target (overrides.override overrides) = .ok first := by
    rw [← h]
    refine merge_congr target fun field _ => ?_
    rw [Members.get?_override]
    cases overrides.get? field.name <;> rfl
  rw [merge_iff_merge_override h, and_iff_right hself]

/-- Objects are merged one after the other. -/
def mergeAll (target : α) (objects : List Members) : Except Mismatch α :=
  objects.foldlM merge target

/-- **Run**: whatever is merged one after the other can be merged at once, with the same outcome. -/
theorem merge_of_mergeAll {last : α} {objects : List Members}
    (h : mergeAll target (overrides :: objects) = .ok last) :
    merge target (objects.foldl Members.override overrides) = .ok last := by
  induction objects generalizing overrides with
  | nil =>
    obtain ⟨first, hfirst, hlast⟩ := exists_of_bind_eq_ok h
    rw [List.foldl_nil, hfirst, ← hlast]
    rfl
  | cons object objects ih =>
    obtain ⟨first, hfirst, hlater⟩ := exists_of_bind_eq_ok h
    obtain ⟨second, hsecond, hlast⟩ := exists_of_bind_eq_ok hlater
    -- the first two of the objects are one
    have hboth := ((merge_iff_merge_override hfirst).mp hsecond).1
    rw [List.foldl_cons]
    refine ih ?_
    rw [mergeAll, List.foldlM_cons, bind_of_eq_ok hboth]
    exact hlast

end Record

/-! ## Sampling parameters -/

/-- **Merging two objects into the default sampling parameters**, one after the other, is merging
both at once, with the same outcome or none, exactly if the parameters in between hold no infinity
that the second object does not name. So the parameters in between are given back by merging nothing
if they hold no infinity, and by merging the first object again in any case. -/
theorem successive_merges_compose {overrides : Members} {first : SamplingParams}
    (h : merge SamplingParams.default overrides = .ok first) :
    (∀ overrides' second, merge first overrides' = .ok second ↔
      merge SamplingParams.default (overrides.override overrides') = .ok second ∧
        Record.FiniteOutside overrides' first) ∧
    (merge first [] = .ok first ↔ Record.IsFinite first) ∧
    merge first overrides = .ok first := by
  refine ⟨fun _ _ => Record.merge_iff_merge_override h, Record.merge_nil_iff, ?_⟩
  rw [Record.merge_again_iff h]
  intro field hmem hnone
  have hfinite := SamplingParams.isFinite_default
  rw [((Record.merge_eq_ok_iff_overwritten hfinite).mp h).unnamed field hmem hnone]
  exact hfinite field hmem

/-- A text to stop at first, and a truth value after it. -/
theorem successive_merges_compose_stop :
    let first := { SamplingParams.default with stop := ["END"] }
    merge SamplingParams.default [("stop", .string "END")] = .ok first ∧
      merge first [("ignore_eos", .boolean true)] = .ok { first with ignoreEos := true } ∧
      merge first [] = .ok first := by
  intro first
  have hfirst : merge SamplingParams.default [("stop", .string "END")] = .ok first := by
    rw [Record.merge_eq_ok_iff_overwritten SamplingParams.isFinite_default]
    constructor
    · simp [first, Record.fields, SamplingParams.fields, Members.get?_cons, FieldType.Denotes]
    · simp [first, Record.fields, SamplingParams.fields, Members.get?_cons]
  have hboth : merge SamplingParams.default
      (Members.override [("stop", .string "END")] [("ignore_eos", .boolean true)]) =
        .ok { first with ignoreEos := true } := by
    rw [Record.merge_eq_ok_iff_overwritten SamplingParams.isFinite_default]
    constructor
    · simp [first, Record.fields, SamplingParams.fields, Members.get?_override, Members.get?_cons,
        FieldType.Denotes, PlainType.Denotes]
    · simp [first, Record.fields, SamplingParams.fields, Members.get?_override, Members.get?_cons]
  have hfinite : Record.IsFinite first := by decide +kernel
  obtain ⟨htwice, hnone, -⟩ := successive_merges_compose hfirst
  exact ⟨hfirst, (htwice _ _).mpr ⟨hboth, fun field hmem _ => hfinite field hmem⟩,
    hnone.mpr hfinite⟩

/-- A temperature of `1e39` is an infinity in single precision. Afterwards not even nothing can be
merged, although both objects at once have an outcome. -/
theorem infinity_stops_merging :
    ∃ x, Binary.ofDecimal binary64 false 1 39 = .finite x ∧
      let overrides : Members := [("temperature", .float x)]
      ∃ first : SamplingParams, merge SamplingParams.default overrides = .ok first ∧
        merge SamplingParams.default (overrides.override []) = .ok first ∧
        ∀ second, merge first [] ≠ .ok second := by
  obtain ⟨x, hx, hlarge⟩ : ∃ x, Binary.ofDecimal binary64 false 1 39 = .finite x ∧
      x.convert binary32 = .infinite false :=
    ⟨(Binary.ofDecimal binary64 false 1 39).finite?.get (by decide +kernel), by decide +kernel⟩
  refine ⟨x, hx, { SamplingParams.default with temperature := .infinite false }, ?_⟩
  have hfirst : merge SamplingParams.default [("temperature", .float x)] =
      .ok { SamplingParams.default with temperature := .infinite false } := by
    rw [Record.merge_eq_ok_iff_overwritten SamplingParams.isFinite_default]
    constructor
    · simp [Record.fields, SamplingParams.fields, Members.get?_cons, FieldType.Denotes, hlarge]
    · simp [Record.fields, SamplingParams.fields, Members.get?_cons]
  refine ⟨hfirst, hfirst, fun second hsecond => ?_⟩
  have hfinite := ((Record.merge_iff_merge_override hfirst).mp hsecond).2
    ⟨"temperature", .real32, (·.temperature)⟩ (by simp [Record.fields, SamplingParams.fields]) rfl
  simp [FieldType.IsFinite] at hfinite

end CompletionService
