import CompletionService.Proofs.Exchange
import CompletionService.Proofs.RequestGrammar

/-!
# Requests that are rejected

What a batch leaves behind in the handler, in the engine and at the client.

* `AdapterTable.gained` — what a selection adds to the numbers of adapters. The table is asked after
  every other check, so only a batch that is accepted adds something (`preprocess_adapters_cases`).
* `exists_preprocess_iff` — the batches that are accepted: those of one item, which carries a
  request of the grammar.
* `Run.NoTrace` — a run of which nothing is left but its result. **A rejected batch leaves no
  trace** (`rejected_batch_leaves_no_trace`); the engine is called for the others, and a run is
  measured if it goes well.
* `Handler.afterAll_filter_accepts` — so, of batches one after the other, the rejected ones might
  as well not have arrived.
-/

namespace CompletionService

/-! ## The numbers of adapters -/

namespace AdapterTable

variable {t : AdapterTable} {name : String} {lora? : Option LoraRequest}

/-- What a selection adds to the numbers: that of the selected adapter, if it had none. -/
def gained (t : AdapterTable) : Option LoraRequest → List (String × UInt32)
  | none => []
  | some lora => if t.id? lora.name = none then [(lora.name, lora.id)] else []

/-- A call that goes well adds what is selected, and changes nothing else. -/
theorem resolve_of_ok (h : (t.resolve name).1 = .ok lora?) :
    (t.resolve name).2 = { t with ids := t.ids ++ t.gained lora? } := by
  by_cases hname : name = ""
  · subst hname
    obtain rfl := Except.ok.inj h
    simp [gained, resolve_empty]
  cases hpath : t.path? name with
  | none => simp [resolve, hname, hpath] at h
  | some path =>
    rw [resolve_of_path hname hpath] at h ⊢
    obtain rfl := Except.ok.inj h
    cases hid : t.id? name with
    | some id => simp [number_of_some hid, gained, hid]
    | none => simp [number_of_none hid, gained, hid]

end AdapterTable

namespace CompletionRequest

variable {request : Members} {adapters : AdapterTable}

/-- Requests add the adapter that they select. -/
theorem prepare_of_ok {completion : CompletionRequest}
    (h : (prepare request adapters).1 = .ok completion) :
    (prepare request adapters).2 =
      { adapters with ids := adapters.ids ++ adapters.gained completion.lora } := by
  obtain ⟨hformed, -⟩ := exists_prepare_iff.mp ⟨completion, h⟩
  obtain ⟨prompt, stream, params, name, hchecked⟩ := wellFormed_iff.mp hformed
  rw [hchecked.prepare_eq] at h ⊢
  cases hresolve : (adapters.resolve name).1 with
  | error e =>
    rw [hresolve] at h
    exact nomatch h
  | ok lora? =>
    rw [hresolve] at h
    obtain rfl := Except.ok.inj h
    exact AdapterTable.resolve_of_ok hresolve

end CompletionRequest

/-! ## Preprocessing -/

section

variable {adapters : AdapterTable} {batch : List RequestItem} {ctx : Context}

/-- A payload that cannot be decoded is rejected. -/
theorem preprocess_of_decode_error {item : RequestItem} {e : ServiceError}
    (h : decodePayload item = .error e) (adapters : AdapterTable) (ctx : Context) :
    (preprocess adapters [item] ctx).result = .error e ∧
      (preprocess adapters [item] ctx).adapters = adapters := by
  simp only [preprocess, h, and_self]

/-- An object is prepared. -/
theorem preprocess_of_decode_ok {item : RequestItem} {members : Members}
    (h : decodePayload item = .ok members) (adapters : AdapterTable) (ctx : Context) :
    (preprocess adapters [item] ctx).result =
        (CompletionRequest.prepare members adapters).1.map ([·]) ∧
      (preprocess adapters [item] ctx).adapters =
        (CompletionRequest.prepare members adapters).2 := by
  simp only [preprocess, h]
  rcases CompletionRequest.prepare members adapters with ⟨e | completion, after⟩
  · exact ⟨rfl, rfl⟩
  · exact ⟨rfl, rfl⟩

/-- **The batches that are accepted** have one item, which carries a request whose adapter is
offered. -/
theorem exists_preprocess_iff :
    (∃ requests, (preprocess adapters batch ctx).result = .ok requests) ↔
      ∃ item members, batch = [item] ∧ decodePayload item = .ok members ∧
        CompletionRequest.WellFormed members ∧
        CompletionRequest.AdapterOffered members adapters := by
  match batch with
  | [] => simp [preprocess]
  | _ :: _ :: _ => simp [preprocess]
  | [item] =>
    cases hdecode : decodePayload item with
    | error e => simp [(preprocess_of_decode_error hdecode adapters ctx).1, hdecode]
    | ok members =>
      rw [(preprocess_of_decode_ok hdecode adapters ctx).1]
      simp only [← CompletionRequest.exists_prepare_iff]
      cases hprepare : (CompletionRequest.prepare members adapters).1 <;>
        simp [Except.map, hdecode, hprepare]

/-- **What preprocessing does to the table**: nothing if the batch is rejected; if it is accepted, it
holds one request and adds the adapter that this selects. -/
theorem preprocess_adapters_cases (adapters : AdapterTable) (batch : List RequestItem)
    (ctx : Context) :
    let prepared := preprocess adapters batch ctx
    (∃ e, prepared.result = .error e ∧ prepared.adapters = adapters) ∨
      ∃ request, prepared.result = .ok [request] ∧ prepared.adapters =
        { adapters with ids := adapters.ids ++ adapters.gained request.lora } := by
  match batch with
  | [] => exact .inl ⟨_, rfl, rfl⟩
  | _ :: _ :: _ => exact .inl ⟨_, rfl, rfl⟩
  | [item] =>
    intro prepared
    cases hdecode : decodePayload item with
    | error e => exact .inl ⟨e, preprocess_of_decode_error hdecode adapters ctx⟩
    | ok members =>
      obtain ⟨hresult, hadapters⟩ : prepared.result = _ ∧ prepared.adapters = _ :=
        preprocess_of_decode_ok hdecode adapters ctx
      rw [hresult, hadapters]
      cases hprepare : (CompletionRequest.prepare members adapters).1 with
      | error e => exact .inl ⟨e, rfl, (CompletionRequest.prepare_error_cases hprepare).1⟩
      | ok completion => exact .inr ⟨completion, rfl, CompletionRequest.prepare_of_ok hprepare⟩

/-- A batch that is rejected adds nothing. -/
theorem preprocess_of_error {e : ServiceError}
    (h : (preprocess adapters batch ctx).result = .error e) :
    (preprocess adapters batch ctx).adapters = adapters := by
  rcases preprocess_adapters_cases adapters batch ctx with ⟨-, -, hsame⟩ | ⟨request, hok, -⟩
  · exact hsame
  · exact nomatch h.symm.trans hok

/-- A batch that is accepted adds what its request selects. -/
theorem preprocess_of_ok {requests : List CompletionRequest}
    (h : (preprocess adapters batch ctx).result = .ok requests) :
    ∃ request, requests = [request] ∧ (preprocess adapters batch ctx).adapters =
      { adapters with ids := adapters.ids ++ adapters.gained request.lora } := by
  rcases preprocess_adapters_cases adapters batch ctx with ⟨e, he, -⟩ | ⟨request, hok, hgained⟩
  · exact nomatch h.symm.trans he
  · exact ⟨request, Except.ok.inj (h.symm.trans hok), hgained⟩

/-- Nothing but the result, the adapters and the log comes of preprocessing. -/
theorem preprocess_quiet (adapters : AdapterTable) (batch : List RequestItem) (ctx : Context) :
    let prepared := preprocess adapters batch ctx
    prepared.pulls = [] ∧ prepared.sent = [] ∧ prepared.refused = none ∧ prepared.metrics = [] := by
  match batch with
  | [] => exact ⟨rfl, rfl, rfl, rfl⟩
  | _ :: _ :: _ => exact ⟨rfl, rfl, rfl, rfl⟩
  | [item] =>
    simp only [preprocess]
    rcases decodePayload item with e | members
    · exact ⟨rfl, rfl, rfl, rfl⟩
    · simp only
      rcases CompletionRequest.prepare members adapters with ⟨e | completion, after⟩
      · exact ⟨rfl, rfl, rfl, rfl⟩
      · exact ⟨rfl, rfl, rfl, rfl⟩

end

/-! ## Runs -/

/-- Nothing is left of a run but its result and the log: the handler is the same, the engine was not
called, nothing was sent or refused, and nothing was measured. -/
structure Run.NoTrace {α : Type} (handler : Handler) (run : Run α) : Prop where
  after : handler.after run = handler
  pulls : run.pulls = []
  sent : run.sent = []
  refused : run.refused = none
  metrics : run.metrics = []

namespace Handler

variable {handler : Handler} {batch : List RequestItem} {ctx : Context} (now : Int64)
  (elapsed : Number.Binary Number.binary64)

/-- A run without calls or new numbers leaves the handler as it is. -/
theorem after_of_quiet {α : Type} {run : Run α} (hadapters : run.adapters = handler.adapters)
    (hpulls : run.pulls = []) : handler.after run = handler := by
  simp [after, hadapters, hpulls]

/-- What is preprocessed in vain leaves no trace. -/
theorem noTrace_preprocess {e : ServiceError}
    (h : (preprocess handler.adapters batch ctx).result = .error e) :
    (preprocess handler.adapters batch ctx).NoTrace handler := by
  obtain ⟨hpulls, hsent, hrefused, hmetrics⟩ := preprocess_quiet handler.adapters batch ctx
  exact ⟨after_of_quiet (preprocess_of_error h) hpulls, hpulls, hsent, hrefused, hmetrics⟩

/-- Neither does the run that ends there. -/
theorem noTrace_run {e : ServiceError}
    (h : (preprocess handler.adapters batch ctx).result = .error e) :
    (handler.run batch ctx now elapsed).result = .error e ∧
      (handler.run batch ctx now elapsed).NoTrace handler := by
  have hrun : handler.run batch ctx now elapsed =
      { result := .error e, adapters := (preprocess handler.adapters batch ctx).adapters,
        log := (preprocess handler.adapters batch ctx).log } := by
    simp only [run, handle, h]
  rw [hrun]
  exact ⟨rfl, after_of_quiet (preprocess_of_error h) rfl, rfl, rfl, rfl, rfl⟩

/-- A run keeps the table that preprocessing leaves. -/
theorem adapters_run (handler : Handler) (batch : List RequestItem) (ctx : Context) :
    (handler.run batch ctx now elapsed).adapters =
      (preprocess handler.adapters batch ctx).adapters := by
  rw [run, handle]
  rcases preprocess_cases handler.adapters batch ctx with ⟨e, he⟩ | ⟨request, hok⟩
  · simp only [he]
  · simp only [hok]
    cases hids : ctx.requestIds with
    | nil => simp only [inference, hids]
    | cons requestId others => rw [inference_eq now hids]

/-- The engine is called for a batch that is accepted and has an id, and never twice. -/
theorem length_pulls_run (handler : Handler) (batch : List RequestItem) (ctx : Context) :
    let run := handler.run batch ctx now elapsed
    run.pulls.length ≤ 1 ∧ (run.pulls.length = 1 ↔
      (∃ requests, (preprocess handler.adapters batch ctx).result = .ok requests) ∧
        ctx.requestIds ≠ []) := by
  intro run
  rcases preprocess_cases handler.adapters batch ctx with ⟨e, he⟩ | ⟨request, hok⟩
  · obtain ⟨-, hpulls, -⟩ : run.result = _ ∧ run.pulls = _ ∧ _ := handle_of_error now elapsed he
    simp [hpulls, he]
  · cases hids : ctx.requestIds with
    | nil =>
      obtain ⟨-, hpulls, -⟩ : run.result = _ ∧ run.pulls = _ ∧ _ :=
        handle_of_no_id now elapsed hok hids
      simp [hpulls]
    | cons requestId others =>
      obtain ⟨-, hpulls, -⟩ : run.result = _ ∧ run.pulls = [⟨request.call requestId, _⟩] ∧ _ :=
        handle_of_call now elapsed hok hids
      simp [hpulls, hok]

/-- A run is measured if it goes well, and never twice. -/
theorem length_metrics_run (handler : Handler) (batch : List RequestItem) (ctx : Context) :
    let run := handler.run batch ctx now elapsed
    run.metrics.length ≤ 1 ∧ (run.metrics.length = 1 ↔ ∃ bodies, run.result = .ok bodies) := by
  simp only [run, handle]
  cases (preprocess handler.adapters batch ctx).result with
  | error e => simp
  | ok requests =>
    simp only [map_postprocess]
    cases (inference handler.engine handler.calls (preprocess handler.adapters batch ctx).adapters
      requests ctx now).result <;> simp

end Handler

/-- **A rejected batch leaves no trace**, neither by preprocessing nor by the run, which fails with
the same error. A batch that is accepted holds one request and adds the adapter that this selects to
the numbers, if it had none. The engine is called once if the batch is accepted and has an id, or
else not at all; and one measurement is made if the run goes well, or else none. -/
theorem rejected_batch_leaves_no_trace (handler : Handler) (batch : List RequestItem)
    (ctx : Context) (now : Int64) (elapsed : Number.Binary Number.binary64) :
    let prepared := preprocess handler.adapters batch ctx
    let run := handler.run batch ctx now elapsed
    (∀ e, prepared.result = .error e →
      prepared.NoTrace handler ∧ run.result = .error e ∧ run.NoTrace handler) ∧
    (∀ requests, prepared.result = .ok requests → ∃ request, requests = [request] ∧
      prepared.adapters = { handler.adapters with
        ids := handler.adapters.ids ++ handler.adapters.gained request.lora }) ∧
    run.adapters = prepared.adapters ∧
    (run.pulls.length ≤ 1 ∧ (run.pulls.length = 1 ↔
      (∃ requests, prepared.result = .ok requests) ∧ ctx.requestIds ≠ [])) ∧
    (run.metrics.length ≤ 1 ∧ (run.metrics.length = 1 ↔ ∃ bodies, run.result = .ok bodies)) :=
  ⟨fun _ he => ⟨Handler.noTrace_preprocess he, Handler.noTrace_run now elapsed he⟩,
    fun _ hok => preprocess_of_ok hok, Handler.adapters_run now elapsed handler batch ctx,
    Handler.length_pulls_run now elapsed handler batch ctx,
    Handler.length_metrics_run now elapsed handler batch ctx⟩

/-! ## Batches one after the other -/

/-- A batch that arrives, with all that its run depends on besides the handler. -/
structure Arrival where
  batch : List RequestItem
  ctx : Context
  now : Int64
  elapsed : Number.Binary Number.binary64

namespace Handler

/-- The handler accepts the batch. -/
def accepts (handler : Handler) (arrival : Arrival) : Bool :=
  (preprocess handler.adapters arrival.batch arrival.ctx).result.isOk

/-- The handler after it has run a batch. -/
def afterArrival (handler : Handler) (arrival : Arrival) : Handler :=
  handler.after (handler.run arrival.batch arrival.ctx arrival.now arrival.elapsed)

/-- The handler after it has run batches one after the other. -/
def afterAll (handler : Handler) (arrivals : List Arrival) : Handler :=
  arrivals.foldl afterArrival handler

variable {handler : Handler} {arrival : Arrival}

@[simp] theorem afterAll_cons (handler : Handler) (arrival : Arrival) (arrivals : List Arrival) :
    handler.afterAll (arrival :: arrivals) = (handler.afterArrival arrival).afterAll arrivals :=
  rfl

theorem accepts_iff : handler.accepts arrival = true ↔
    ∃ requests, (preprocess handler.adapters arrival.batch arrival.ctx).result = .ok requests := by
  rw [accepts]
  cases (preprocess handler.adapters arrival.batch arrival.ctx).result <;>
    simp [Except.isOk, Except.toBool]

/-- **Step**: a batch that is not accepted changes nothing. -/
theorem afterArrival_of_not_accepts (h : handler.accepts arrival = false) :
    handler.afterArrival arrival = handler := by
  rw [accepts] at h
  cases hresult : (preprocess handler.adapters arrival.batch arrival.ctx).result with
  | error e => exact (noTrace_run arrival.now arrival.elapsed hresult).2.after
  | ok requests =>
    rw [hresult] at h
    exact nomatch h

/-- What a handler accepts depends on the adapters that are declared alone, which stay. -/
theorem accepts_afterArrival (handler : Handler) (arrival other : Arrival) :
    (handler.afterArrival arrival).accepts other = handler.accepts other := by
  have hpaths : (handler.afterArrival arrival).adapters.paths = handler.adapters.paths := by
    rw [afterArrival, after, adapters_run]
    cases hresult : (preprocess handler.adapters arrival.batch arrival.ctx).result with
    | error e => rw [preprocess_of_error hresult]
    | ok requests =>
      obtain ⟨request, -, hadapters⟩ := preprocess_of_ok hresult
      rw [hadapters]
  rw [Bool.eq_iff_iff, accepts_iff, accepts_iff, exists_preprocess_iff, exists_preprocess_iff]
  simp only [CompletionRequest.AdapterOffered, AdapterTable.Offers, hpaths]

/-- **Run**: the batches that are not accepted might as well not have arrived. -/
theorem afterAll_filter_accepts (handler : Handler) (arrivals : List Arrival) :
    handler.afterAll (arrivals.filter handler.accepts) = handler.afterAll arrivals := by
  induction arrivals generalizing handler with
  | nil => rfl
  | cons arrival arrivals ih =>
    have hlater : arrivals.filter (handler.afterArrival arrival).accepts =
        arrivals.filter handler.accepts :=
      List.filter_congr fun other _ => handler.accepts_afterArrival arrival other
    have hrest := ih (handler.afterArrival arrival)
    rw [hlater] at hrest
    rw [List.filter_cons]
    split
    · rwa [afterAll_cons, afterAll_cons]
    · rename_i hrejected
      have hsame := afterArrival_of_not_accepts (Bool.eq_false_iff.mpr hrejected)
      rw [hsame] at hrest
      rw [hrest, afterAll_cons, hsame]

end Handler

end CompletionService
