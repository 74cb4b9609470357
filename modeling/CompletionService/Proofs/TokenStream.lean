import CompletionService.Proofs.Decoding
import CompletionService.Proofs.Transcript

/-!
# From tokens to a transcript

The whole way of a text: a model produces tokens, decoding decides what may be shown, events carry
it, and responses say what is new in them. All three keep track of how far they have come; together
they say a text that follows from the tokens alone.

* `events_eq_map` — the events of a model are those of the moments of a run.
* `StopsAfter.cumulative` — **what is shown grows** from moment to moment.
* `EndsWith` — the text that a generation ends with, computed from its tokens.
* `tokens_to_transcript` — **that text is what a client reads**, streamed or as a whole.
-/

namespace CompletionService

open Text

namespace Decoding

/-! ## The events of a run -/

/-- The event of a moment. -/
def Moment.event (call : Call) (m : Moment) : RequestOutput :=
  TokenModel.event call (String.ofList m.shown) m.tokenIds m.step.finish?

variable {params : SamplingParams} {eos : Option TokenId} {budget : Nat} {script : Script}
  {j k : Nat}

/-- An event has the text that may be shown. -/
theorem Moment.firstText_event (call : Call) (m : Moment) :
    (m.event call).firstText.toList = m.shown := by
  change (String.ofList m.shown).toList = m.shown
  exact String.toList_ofList

/-- The events that come after some tokens are those of the moments that do. -/
theorem eventsFrom_eq_map (call : Call) (generated : List TokenId) (text : String) (visible : Nat)
    (script : Script) :
    TokenModel.eventsFrom call eos budget generated text visible script =
      (runFrom call.params eos budget generated text visible script).map (Moment.event call) := by
  induction script generalizing generated text visible with
  | nil => rfl
  | cons head rest ih =>
    obtain ⟨token, piece⟩ := head
    rw [TokenModel.eventsFrom, runFrom]
    cases hfinish : (evaluateStep call.params eos (generated ++ [token]) (text ++ piece) budget
        visible).finish? with
    | some reason =>
      simp only [hfinish, List.map_cons, List.map_nil, Moment.event]
      rfl
    | none =>
      simp only [hfinish, ih, List.map_cons, Moment.event]
      rfl

/-- With a budget, the events of a model are those of the moments of a run. -/
theorem events_eq_map (model : TokenModel) (call : Call)
    (hbudget : 1 ≤ tokenBudget call.params model.maxModelLen model.promptTokens) :
    model.events call =
      (run call.params model.eos (tokenBudget call.params model.maxModelLen model.promptTokens)
        model.tokens).map (Moment.event call) := by
  rw [TokenModel.events]
  simp only [if_neg (Nat.one_le_iff_ne_zero.mp hbudget), eventsFrom_eq_map, run]

/-- The events of a run are cumulative. -/
theorem StopsAfter.cumulative (h : StopsAfter params eos budget script k) (call : Call) :
    Cumulative ((List.range' 1 k).map fun i =>
      (momentAfter params eos budget script i).event call) where
  outputs event hmem := by
    obtain ⟨i, -, rfl⟩ := List.mem_map.mp hmem
    exact List.cons_ne_nil _ _
  grows := by
    rw [List.isChain_iff_pairwise, List.pairwise_map]
    refine List.Pairwise.imp_of_mem ?_ (List.pairwise_lt_range' 1)
    intro i i' hi hi' hlt
    obtain ⟨hone, -⟩ := List.mem_range'_1.mp hi
    obtain ⟨-, hle⟩ := List.mem_range'_1.mp hi'
    rw [RequestOutput.GrowsTo, Moment.firstText_event, Moment.firstText_event]
    exact shown_momentAfter_isPrefix (h.first i (by omega) hone) hlt

/-! ## The text in the end -/

/-- The text with which a generation ends at its `k`-th token, from the tokens alone: all of it,
unless only a stop text ends the generation; then the text up to the first stop text, or what had
settled before, if that is more. -/
structure EndsWith (params : SamplingParams) (eos : Option TokenId) (script : Script) (k : Nat)
    (text : String) : Prop where
  whole : EndsOnToken params eos (Script.ids (script.take k)) ∨
      ¬ EndsOnText params (Script.ids (script.take k)) (Script.text (script.take k)) →
    text = Script.text (script.take k)
  cut : ¬ EndsOnToken params eos (Script.ids (script.take k)) →
    EndsOnText params (Script.ids (script.take k)) (Script.text (script.take k)) →
    ∃ p, IsLeast {n | StopAt params.stop (Script.text (script.take k)).toList n} p ∧
      text.toList <+: (Script.text (script.take k)).toList ∧
      byteLength text.toList = max p (byteLength (Script.text (script.take (k - 1))).toList -
        heldBack (params.stop.map String.toList) (Script.text (script.take (k - 1))).toList)

/-- The moment that ends a generation shows that text. -/
theorem endsWith_shown (hends : EndsAt params eos budget script k) :
    EndsWith params eos script k
      (String.ofList (momentAfter params eos budget script k).shown) where
  whole h := by
    -- a stop token and the budget release all text
    have hvisible : (momentAfter params eos budget script k).step.visible =
        byteLength (Script.text (script.take k)).toList := by
      by_cases htoken : EndsOnToken params eos (Script.ids (script.take k))
      · rw [momentAfter, evaluateStep_of_token htoken]
      · have htext := h.resolve_left htoken
        rw [momentAfter, evaluateStep_of_budget htoken htext
          ((hends.resolve_left htoken).resolve_left htext)]
    rw [Moment.shown, hvisible, ← String.toList_inj, String.toList_ofList]
    exact takeBytes_eq_of_isPrefix List.prefix_rfl
  cut htoken htext := by
    obtain ⟨p, hp, hstep⟩ := exists_step_momentAfter_of_text htoken htext
    obtain ⟨-, hboundary⟩ := settled_le_visible params eos budget script k
    refine ⟨p, hp, ?_, ?_⟩
    · rw [String.toList_ofList]
      exact Moment.shown_isPrefix _
    · rw [String.toList_ofList]
      refine hboundary.byteLength_takeBytes.trans ?_
      rw [hstep, settled]

end Decoding

/-! ## From tokens to a client -/

section

open Decoding

variable {model : TokenModel} {call : Call} {k : Nat}

/-- The budget of a call. -/
def TokenModel.budget (model : TokenModel) (params : SamplingParams) : Nat :=
  tokenBudget params model.maxModelLen model.promptTokens

/-- The event of the `k`-th token. -/
def TokenModel.eventAfter (model : TokenModel) (call : Call) (k : Nat) : RequestOutput :=
  (momentAfter call.params model.eos (model.budget call.params) model.tokens k).event call

/-- The event of a token is finished if the generation ends with it. -/
theorem TokenModel.finished_eventAfter :
    (model.eventAfter call k).finished = true ↔
      EndsAt call.params model.eos (model.budget call.params) model.tokens k :=
  isSome_finish?_iff

/-- A call that is not refused is answered with the events of the tokens up to the last one. -/
theorem TokenModel.generate_eq (hadapter : model.refusesAdapters = none ∨ call.lora = none)
    (hbudget : 1 ≤ model.budget call.params)
    (hstops : StopsAfter call.params model.eos (model.budget call.params) model.tokens (k + 1)) :
    model.generate call = .stream (((List.range' 1 k).map (model.eventAfter call)).map .ok ++
      [.ok (model.eventAfter call (k + 1))]) := by
  have hevents : model.events call =
      (List.range' 1 k).map (model.eventAfter call) ++ [model.eventAfter call (k + 1)] := by
    rw [events_eq_map model call hbudget, ← TokenModel.budget, hstops.run_eq, List.range'_1_concat,
      List.map_map, List.map_append, Nat.add_comm 1 k]
    rfl
  have hitems : model.generate call = .stream ((model.events call).map .ok) := by
    rw [TokenModel.generate]
    rcases hadapter with h | h
    · simp only [h]
    · cases model.refusesAdapters with
      | none => rfl
      | some backend => simp only [h, ensureNoAdapter]
  rw [hitems, hevents, List.map_append, List.map_singleton]

/-- **From tokens to responses**: a call that is not refused, and whose generation ends at a token,
is relayed in one chunk for each token before, and says the text with which the generation ends. -/
theorem TokenModel.relayed_generate (model : TokenModel) (call : Call)
    (hadapter : model.refusesAdapters = none ∨ call.lora = none)
    (hbudget : 1 ≤ model.budget call.params)
    (hstops : StopsAfter call.params model.eos (model.budget call.params) model.tokens (k + 1))
    (hends : EndsAt call.params model.eos (model.budget call.params) model.tokens (k + 1))
    {ctx : Context} (ctx' : Context) (hsink : ctx.sink.NeverRefuses) {requestId : String}
    {others : List String} (hids : ctx.requestIds = requestId :: others) (now now' : Int64) :
    let streamed := (model.generate call).relayed ctx true
    let whole := (model.generate call).relayed ctx' false
    streamed.sent.length = k ∧
      ∃ text, Streams streamed.sent (streamed.bodies requestId now) text ∧
        Returns (whole.bodies requestId now') text ∧
        EndsWith call.params model.eos model.tokens (k + 1) text := by
  have hopen : ∀ event ∈ (List.range' 1 k).map (model.eventAfter call),
      event.finished = false := by
    intro event hmem
    obtain ⟨j, hj, rfl⟩ := List.mem_map.mp hmem
    obtain ⟨hone, hlt⟩ := List.mem_range'_1.mp hj
    rw [← Bool.not_eq_true, finished_eventAfter]
    exact hstops.first j (by omega) hone
  have hcumulative : Cumulative ((List.range' 1 k).map (model.eventAfter call) ++
      [model.eventAfter call (k + 1)]) := by
    have := hstops.cumulative call
    rwa [List.range'_1_concat, List.map_append, Nat.add_comm 1 k] at this
  obtain ⟨-, -, hsent, -, hstreams, hreturns⟩ := relay_finished ctx' hsink hids now now' hopen
    (finished_eventAfter.mpr hends) [] hcumulative
  rw [generate_eq hadapter hbudget hstops]
  rw [List.length_map, List.length_range'] at hsent
  exact ⟨hsent, _, hstreams, hreturns, endsWith_shown hends⟩

end

/-- **What a client reads follows from the tokens alone.** Let a model answer a request with a
generation that ends at the `k`-th token. Then one chunk is sent for each token before, the chunks
add up to the text with which the generation ends, and a variant of the request that asks for a
whole gets that text as well. -/
theorem tokens_to_transcript (model : TokenModel) (k : Nat) {adapters : AdapterTable}
    {item item' : RequestItem} {ctx ctx' : Context} {request : CompletionRequest}
    {requestId : String} {others : List String} (before before' : List Call) (now now' : Int64)
    (elapsed elapsed' : Number.Binary Number.binary64)
    (hvariants : ItemVariants item item')
    (hrequest : (preprocess adapters [item] ctx).result = .ok [request])
    (hids : ctx.requestIds = requestId :: others) (hids' : ctx.requestIds = ctx'.requestIds)
    (hsink : ctx.sink.NeverRefuses)
    (hadapter : model.refusesAdapters = none ∨ request.lora = none)
    (hbudget : 1 ≤ model.budget request.params) (hpos : 1 ≤ k) (hlen : k ≤ model.tokens.length)
    (hends : Decoding.EndsAt request.params model.eos (model.budget request.params) model.tokens k)
    (hfirst : ∀ j < k, 1 ≤ j →
      ¬ Decoding.EndsAt request.params model.eos (model.budget request.params) model.tokens j) :
    let streamed := handle (fun _ => model.generate) before adapters [item] ctx now elapsed
    let whole := handle (fun _ => model.generate) before' adapters [item'] ctx' now' elapsed'
    streamed.sent.length = k - 1 ∧
      ∃ text, Streams streamed.sent streamed.result text ∧ Returns whole.result text ∧
        Decoding.EndsWith request.params model.eos model.tokens k text := by
  intro streamed whole
  -- the two requests
  obtain ⟨e, he, -⟩ | ⟨request, hok, hok'⟩ :=
    preprocess_of_variants (.cons hvariants .nil) adapters ctx ctx'
  · rw [he] at hrequest
    exact nomatch hrequest
  obtain rfl := List.singleton_inj.mp (Except.ok.inj (hok.symm.trans hrequest))
  -- their call, which the model answers
  obtain ⟨k, rfl⟩ := Nat.exists_eq_add_of_le' hpos
  obtain ⟨hsent, hagree⟩ := model.relayed_generate (request.call requestId) hadapter hbudget
    ⟨hlen, hfirst, .inl ⟨hpos, hends⟩⟩ hends ctx' hsink hids now now'
  obtain ⟨hresult, -, hsent'⟩ : streamed.result = _ ∧ _ ∧ streamed.sent = _ :=
    handle_of_call now elapsed hok hids
  obtain ⟨hresult', -, -⟩ : whole.result = _ ∧ _ ∧ _ :=
    handle_of_call now' elapsed' hok' (hids' ▸ hids)
  rw [hresult, hresult', hsent']
  exact ⟨hsent, hagree⟩

/-- A result that is there is no error. -/
theorem eq_ok_of_toOption {ε α : Type} {result : Except ε α} {a : α}
    (h : result.toOption = some a) : result = .ok a := by
  cases result with
  | error e => exact nomatch h
  | ok b => exact congrArg _ (Option.some.inj h)

/-- The stop text `END` over two tokens, the first of which shows only what stands before it. -/
theorem tokens_to_transcript_held :
    let item (stream : Bool) : RequestItem := { data := some (.json
      [("prompt", .string "hi"), ("stop", .array [.string "END"]), ("stream", .boolean stream)]) }
    let model : TokenModel := { tokens := [(1, "é E"), (2, "ND"), (3, "!")] }
    let run (stream : Bool) := handle (fun _ => model.generate) [] ⟨"/models", [], []⟩ [item stream]
      { requestIds := ["r"] } 0 (.infinite false)
    (run true).sent.length = 1 ∧
      ∃ text, Streams (run true).sent (run true).result text ∧ Returns (run false).result text ∧
        Decoding.EndsWith { SamplingParams.default with stop := ["END"] } none model.tokens 2
          text := by
  intro item model run
  have hprepared :
      (preprocess ⟨"/models", [], []⟩ [item true] { requestIds := ["r"] }).result.toOption =
        some [⟨"hi", true, { SamplingParams.default with stop := ["END"] }, none⟩] := by
    decide +kernel +revert
  have hvariants : ItemVariants (item true) (item false) := by
    refine ⟨_, _, rfl, rfl, rfl, rfl, fun key hkey => ?_⟩
    simp [Members.get?_cons, hkey]
  exact tokens_to_transcript { tokens := [(1, "é E"), (2, "ND"), (3, "!")] } 2 [] [] 0 0
    (.infinite false) (.infinite false) hvariants (eq_ok_of_toOption hprepared) rfl rfl
    (fun _ _ => rfl) (.inl rfl) (by decide) (by decide) (by decide) (by decide) (by decide)

end CompletionService
