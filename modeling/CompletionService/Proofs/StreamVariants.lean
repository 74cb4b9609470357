import CompletionService.Handler.Run
import CompletionService.Proofs.Records
import Mathlib.Data.List.Forall2

/-!
# Requests that differ in how they are answered

Two requests are variants of each other if their objects agree on every field but `stream`, which
asks one of them for a stream and the other for a whole. Up to that field they are prepared to the
same request, by the same change of the adapter table, or are rejected with the same error.
-/

namespace CompletionService

/-! ## Variants -/

/-- The objects differ in `stream` alone, which is true in the first and false in the second. -/
structure StreamVariants (m m' : Members) : Prop where
  stream : m.get? "stream" = some (.boolean true)
  whole : m'.get? "stream" = some (.boolean false)
  others : ∀ key, key ≠ "stream" → m.get? key = m'.get? key

/-- The items carry objects that are variants of each other. -/
def ItemVariants (item item' : RequestItem) : Prop :=
  ∃ m m', decodePayload item = .ok m ∧ decodePayload item' = .ok m' ∧ StreamVariants m m'

namespace StreamVariants

variable {m m' : Members} (h : StreamVariants m m')
include h

theorem prompt?_eq : CompletionRequest.prompt? m = CompletionRequest.prompt? m' := by
  rw [CompletionRequest.prompt?, CompletionRequest.prompt?, h.others "prompt" (by decide)]

theorem adapter?_eq : CompletionRequest.adapter? m = CompletionRequest.adapter? m' := by
  rw [CompletionRequest.adapter?, CompletionRequest.adapter?, h.others "lora_adapter" (by decide)]

theorem stream?_eq : CompletionRequest.stream? m = .ok true := by
  rw [CompletionRequest.stream?, h.stream]

theorem whole?_eq : CompletionRequest.stream? m' = .ok false := by
  rw [CompletionRequest.stream?, h.whole]

/-- Sampling parameters do not depend on how a request is answered. -/
theorem params?_eq : CompletionRequest.params? m = CompletionRequest.params? m' := by
  have hnames : ∀ field ∈ SamplingParams.fields, field.name ≠ "stream" := by
    simp [SamplingParams.fields]
  have hmerge := Record.merge_congr SamplingParams.default fun field hmem =>
    h.others field.name (hnames field hmem)
  rw [CompletionRequest.params?, CompletionRequest.params?, hmerge]

/-- **Variants are prepared alike**, or rejected with the same error. -/
theorem prepare (adapters : AdapterTable) :
    (∃ e after, CompletionRequest.prepare m adapters = (.error e, after) ∧
      CompletionRequest.prepare m' adapters = (.error e, after)) ∨
    ∃ (request : CompletionRequest) (after : AdapterTable),
      CompletionRequest.prepare m adapters = (.ok { request with stream := true }, after) ∧
      CompletionRequest.prepare m' adapters = (.ok { request with stream := false }, after) := by
  simp only [CompletionRequest.prepare, h.stream?_eq, h.whole?_eq, h.prompt?_eq, h.params?_eq,
    h.adapter?_eq]
  rcases CompletionRequest.prompt? m' with e | prompt
  · exact .inl ⟨e, adapters, rfl, rfl⟩
  rcases CompletionRequest.params? m' with e | params
  · exact .inl ⟨e, adapters, rfl, rfl⟩
  rcases CompletionRequest.adapter? m' with e | name
  · exact .inl ⟨e, adapters, rfl, rfl⟩
  rcases hresolve : adapters.resolve name with ⟨e | lora, after⟩
  · refine .inl ⟨e, after, ?_, ?_⟩ <;> simp only [bind, Except.bind, pure, Except.pure, hresolve]
  · refine .inr ⟨⟨prompt, true, params, lora⟩, after, ?_, ?_⟩ <;>
      simp only [bind, Except.bind, pure, Except.pure, hresolve]

end StreamVariants

/-- **Batches of variants are preprocessed alike**, or rejected with the same error. -/
theorem preprocess_of_variants {batch batch' : List RequestItem}
    (h : List.Forall₂ ItemVariants batch batch') (adapters : AdapterTable) (ctx ctx' : Context) :
    (∃ e, (preprocess adapters batch ctx).result = .error e ∧
      (preprocess adapters batch' ctx').result = .error e) ∨
    ∃ request : CompletionRequest,
      (preprocess adapters batch ctx).result = .ok [{ request with stream := true }] ∧
      (preprocess adapters batch' ctx').result = .ok [{ request with stream := false }] := by
  cases h with
  | nil => exact .inl ⟨_, rfl, rfl⟩
  | cons hitem hrest =>
    cases hrest with
    | nil =>
      obtain ⟨m, m', hm, hm', hvariants⟩ := hitem
      simp only [preprocess, hm, hm']
      rcases hvariants.prepare adapters with ⟨e, after, he, he'⟩ | ⟨request, after, hok, hok'⟩
      · rw [he, he']
        exact .inl ⟨e, rfl, rfl⟩
      · rw [hok, hok']
        exact .inr ⟨request, rfl, rfl⟩
    | cons hnext hrest =>
      -- the error names the number of requests, which is the same
      refine .inl ⟨_, rfl, ?_⟩
      simp only [preprocess, List.length_cons, hrest.length_eq]

end CompletionService
