import CompletionService.Proofs.Relay
import CompletionService.Proofs.StreamVariants

/-!
# What a client reads

A run of the handler as its client and the engine see it: the result, the calls, and what was sent
ahead of the result.

* `handle_of_error`, `handle_of_no_id`, `handle_of_call` — a run ends in one of these ways: nothing
  is asked of the engine, or what the engine answers is relayed (`Outcome.relayed`).
* `stream_agrees_with_whole` — **the way in which a request is answered does not matter**: variants
  of a request lead to the same call, and to the same text or the same error.
-/

namespace CompletionService

/-! ## Answers of an engine -/

/-- What becomes of an answer of the engine, for a client that wants a stream or a whole. -/
def Outcome.relayed (ctx : Context) (stream : Bool) : Outcome → Relay
  | .refused e => { pulled := 0, sent := [], result := .error e }
  | .stream items => relay ctx { stream } [] items

/-- An engine that answers so either refuses, or lets the text grow from event to event. -/
def Outcome.Cumulative : Outcome → Prop
  | .refused _ => True
  | .stream items => CompletionService.Cumulative (eventsOf items)

/-- **Streaming and not streaming agree** on every such answer. -/
theorem Outcome.Cumulative.relayed_agrees {outcome : Outcome} (hcumulative : outcome.Cumulative)
    {ctx : Context} (ctx' : Context) (hsink : ctx.sink.NeverRefuses) {requestId : String}
    {others : List String} (hids : ctx.requestIds = requestId :: others) (now now' : Int64) :
    let streamed := outcome.relayed ctx true
    let whole := outcome.relayed ctx' false
    streamed.pulled = whole.pulled ∧ whole.sent = [] ∧
      ((∃ failure, streamed.bodies requestId now = .error failure ∧
          whole.bodies requestId now' = .error failure) ∨
        ∃ text, Streams streamed.sent (streamed.bodies requestId now) text ∧
          Returns (whole.bodies requestId now') text) := by
  cases outcome with
  | refused failure => exact ⟨rfl, rfl, .inl ⟨failure, rfl, rfl⟩⟩
  | stream items => exact relay_agrees ctx' hsink hids now now' hcumulative

/-! ## How a run ends -/

section

variable {engine : Engine} {before : List Call} {adapters : AdapterTable}
  {batch : List RequestItem} {ctx : Context} (now : Int64)
  (elapsed : Number.Binary Number.binary64) {request : CompletionRequest} {requestId : String}
  {others : List String} {failure : ServiceError}

/-- With a request and an id, the engine is called once, and its answer is relayed. -/
theorem inference_eq (hids : ctx.requestIds = requestId :: others)
    (more : List CompletionRequest) :
    inference engine before adapters (request :: more) ctx now =
      let relayed := (engine before (request.call requestId)).relayed ctx request.stream
      { result := relayed.bodies requestId now, adapters,
        pulls := [⟨request.call requestId, relayed.pulled⟩], sent := relayed.sent,
        refused := relayed.refused, log := [handlerEvent .debug "inputs" []] } := by
  simp only [inference, hids]
  cases engine before (request.call requestId) <;> rfl

/-- A batch that is rejected leads to no call. -/
theorem handle_of_error (h : (preprocess adapters batch ctx).result = .error failure) :
    let run := handle engine before adapters batch ctx now elapsed
    run.result = .error failure ∧ run.pulls = [] ∧ run.sent = [] := by
  simp [handle, h]

/-- A request without an id leads to no call. -/
theorem handle_of_no_id (h : (preprocess adapters batch ctx).result = .ok [request])
    (hids : ctx.requestIds = []) :
    let run := handle engine before adapters batch ctx now elapsed
    run.result = .error (.precondition "missing request id") ∧ run.pulls = [] ∧ run.sent = [] := by
  simp [handle, h, inference, hids, Except.map]

/-- Final responses are passed on as they are. -/
theorem map_postprocess (result : Except ServiceError (List String)) :
    result.map postprocess = result := by
  cases result <;> rfl

/-- Otherwise there is one call, which does not tell how the request is answered. The answer of the
engine is relayed. -/
theorem handle_of_call {stream : Bool}
    (h : (preprocess adapters batch ctx).result = .ok [{ request with stream }])
    (hids : ctx.requestIds = requestId :: others) :
    let run := handle engine before adapters batch ctx now elapsed
    let relayed := (engine before (request.call requestId)).relayed ctx stream
    run.result = relayed.bodies requestId now ∧
      run.pulls = [⟨request.call requestId, relayed.pulled⟩] ∧ run.sent = relayed.sent := by
  simp only [handle, h, inference_eq now hids]
  exact ⟨map_postprocess _, rfl, rfl⟩

/-- What a run refuses is what the relay of the answer does. -/
theorem refused_handle_of_call {stream : Bool}
    (h : (preprocess adapters batch ctx).result = .ok [{ request with stream }])
    (hids : ctx.requestIds = requestId :: others) :
    (handle engine before adapters batch ctx now elapsed).refused =
      ((engine before (request.call requestId)).relayed ctx stream).refused := by
  simp only [handle, h, inference_eq now hids]
  rfl

/-- A run that fails is not measured. -/
theorem metrics_handle_of_error
    (h : (handle engine before adapters batch ctx now elapsed).result = .error failure) :
    (handle engine before adapters batch ctx now elapsed).metrics = [] := by
  unfold handle at h ⊢
  cases hprepared : (preprocess adapters batch ctx).result with
  | error e => simp only [hprepared]
  | ok requests =>
    simp only [hprepared] at h ⊢
    rw [map_postprocess] at h
    rw [h]

end

/-! ## Streaming and not streaming -/

/-- **The way in which a request is answered does not matter.** Variants of a batch are handled by
the same call, if any, which takes the same items. If the engine answers it alike, and with texts
that grow, then nothing is sent ahead of the whole, and either both fail with the same error or the
stream adds up to the text of the whole. -/
theorem stream_agrees_with_whole {engine engine' : Engine} {before before' : List Call}
    {adapters : AdapterTable} {batch batch' : List RequestItem} {ctx ctx' : Context}
    (now now' : Int64) (elapsed elapsed' : Number.Binary Number.binary64)
    (hbatch : List.Forall₂ ItemVariants batch batch') (hids : ctx.requestIds = ctx'.requestIds)
    (hsink : ctx.sink.NeverRefuses)
    (hengine : ∀ pull ∈ (handle engine before adapters batch ctx now elapsed).pulls,
      engine before pull.call = engine' before' pull.call ∧
        (engine before pull.call).Cumulative) :
    let streamed := handle engine before adapters batch ctx now elapsed
    let whole := handle engine' before' adapters batch' ctx' now' elapsed'
    streamed.pulls = whole.pulls ∧ streamed.pulls.length ≤ 1 ∧ whole.sent = [] ∧
      ((∃ failure, streamed.result = .error failure ∧ whole.result = .error failure) ∨
        ∃ text, Streams streamed.sent streamed.result text ∧ Returns whole.result text) := by
  intro streamed whole
  rcases preprocess_of_variants hbatch adapters ctx ctx' with ⟨e, he, he'⟩ | ⟨request, hok, hok'⟩
  · -- the batch is rejected
    obtain ⟨hresult, hpulls, -⟩ : streamed.result = _ ∧ streamed.pulls = _ ∧ _ :=
      handle_of_error now elapsed he
    obtain ⟨hresult', hpulls', hsent'⟩ : whole.result = _ ∧ whole.pulls = _ ∧ whole.sent = _ :=
      handle_of_error now' elapsed' he'
    rw [hpulls, hpulls']
    exact ⟨rfl, Nat.zero_le 1, hsent', .inl ⟨e, hresult, hresult'⟩⟩
  cases hctx : ctx.requestIds with
  | nil =>
    obtain ⟨hresult, hpulls, -⟩ : streamed.result = _ ∧ streamed.pulls = _ ∧ _ :=
      handle_of_no_id now elapsed hok hctx
    obtain ⟨hresult', hpulls', hsent'⟩ : whole.result = _ ∧ whole.pulls = _ ∧ whole.sent = _ :=
      handle_of_no_id now' elapsed' hok' (hids ▸ hctx)
    rw [hpulls, hpulls']
    exact ⟨rfl, Nat.zero_le 1, hsent', .inl ⟨_, hresult, hresult'⟩⟩
  | cons requestId others =>
    obtain ⟨hresult, hpulls, hsent⟩ : streamed.result = _ ∧ streamed.pulls = _ ∧
        streamed.sent = _ := handle_of_call now elapsed hok hctx
    obtain ⟨hresult', hpulls', hsent'⟩ : whole.result = _ ∧ whole.pulls = _ ∧ whole.sent = _ :=
      handle_of_call now' elapsed' hok' (hids ▸ hctx)
    obtain ⟨hsame, hcumulative⟩ := hengine _ (hpulls ▸ List.mem_singleton_self _)
    obtain ⟨hpulled, hnone, hagree⟩ := hcumulative.relayed_agrees ctx' hsink hctx now now'
    rw [← hsame] at hresult' hpulls' hsent'
    rw [hpulls, hpulls', hresult, hresult', hsent, hsent']
    exact ⟨by rw [hpulled], Nat.le_refl 1, hnone, hagree⟩

/-- A generation that never finishes, in which a text is said twice. -/
theorem stream_agrees_with_whole_unfinished :
    let item (stream : Bool) : RequestItem :=
      { data := some (.json [("prompt", .string "hi"), ("stream", .boolean stream)]) }
    let event (text : String) : RequestOutput :=
      { requestId := "r", prompt := "hi", outputs := [{ text }] }
    let engine : Engine := fun _ _ => .stream [.ok (event "é"), .ok (event "é"), .ok (event "é!")]
    let run (stream : Bool) := handle engine [] ⟨"/models", [], []⟩ [item stream]
      { requestIds := ["r"] } 0 (.infinite false)
    (run true).pulls = (run false).pulls ∧ (run true).pulls.length ≤ 1 ∧ (run false).sent = [] ∧
      ∃ text, Streams (run true).sent (run true).result text ∧ Returns (run false).result text := by
  intro item event engine run
  have hok : (run false).result.isOk = true := by decide +kernel +revert
  have hvariants : ItemVariants (item true) (item false) := by
    refine ⟨_, _, rfl, rfl, rfl, rfl, fun key hkey => ?_⟩
    simp [Members.get?_cons, hkey]
  have hgrows : "é".toList <+: "é!".toList := by decide
  have hcumulative : Cumulative [event "é", event "é", event "é!"] :=
    ⟨by simp [event], .cons_cons List.prefix_rfl (.cons_cons hgrows (.singleton _))⟩
  obtain ⟨hpulls, hone, hsent, hagree⟩ : (run true).pulls = (run false).pulls ∧ _ :=
    stream_agrees_with_whole 0 0 (.infinite false) (.infinite false)
      (.cons hvariants .nil) rfl (fun _ _ => rfl) (fun _ _ => ⟨rfl, hcumulative⟩)
  refine ⟨hpulls, hone, hsent, hagree.resolve_left ?_⟩
  rintro ⟨failure, -, herror⟩
  rw [herror] at hok
  exact nomatch hok

end CompletionService
