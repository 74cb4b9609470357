import CompletionService.Http.Server
import CompletionService.Proofs.Exchange
import CompletionService.Proofs.RequestGrammar

/-!
# Predictions

What a client that stays is told of the run that its request leads to (`Server.handled`).

* `Outcome.Fails` — the failures of an engine. A run is cancelled only by one of them
  (`fails_of_cancelled`): nothing else that the handler does fails in that way, and the sink of a
  client that stays takes everything.
* `response_refines_run` — **no turn order matters**: whatever the order in which the handler tells
  and the client receives, the response is made of what the run sent and returned.
* `response_tells_outcome` — **a response tells how the run ended**, unless the engine fails with a
  cancellation. Such a failure is not told, and what was sent looks like a whole answer
  (`cancellation_looks_whole`).
-/

namespace CompletionService

open Http

/-! ## Requests that are rejected -/

section

variable (adapters : AdapterTable) {e : ServiceError}

/-- A payload is rejected as a bad request, or because it is no text. -/
theorem decodePayload_error {item : RequestItem} (h : decodePayload item = .error e) :
    (∃ reason, e = .badRequest reason) ∨ ∃ fault, e = .decode fault := by
  have htext (text : String) : OnlyBadRequests (decodeText text) := by
    unfold decodeText
    split
    · exact .ok _
    · exact .error _
    · exact .error _
  unfold decodePayload at h
  split at h
  · exact .inl ⟨_, (Except.error.inj h).symm⟩
  · exact nomatch h
  · split at h
    · exact .inl (htext _ e h)
    · exact .inr ⟨_, (Except.error.inj h).symm⟩

/-- No batch is rejected as if the client had left. -/
theorem preprocess_error_ne_cancelled {batch : List RequestItem} {ctx : Context}
    (h : (preprocess adapters batch ctx).result = .error e) (id : String) : e ≠ .cancelled id := by
  rintro rfl
  unfold preprocess at h
  split at h
  · simp only at h
    split at h
    · rename_i e' he'
      obtain rfl := Except.error.inj h
      rcases decodePayload_error he' with ⟨reason, hreason⟩ | ⟨fault, hfault⟩
      · exact nomatch hreason
      · exact nomatch hfault
    · split at h
      · rename_i e' after hprepare
        obtain rfl := Except.error.inj h
        rcases (CompletionRequest.prepare_error_cases (congrArg Prod.fst hprepare)).2 with
          ⟨-, -, name, hreason⟩ | ⟨-, reason, hreason⟩
        · exact nomatch hreason
        · exact nomatch hreason
      · exact nomatch h
  · exact nomatch h

end

/-! ## Failures of a run -/

/-- An answer of an engine fails with this error, at once or in one of its items. -/
def Outcome.Fails (outcome : Outcome) (e : ServiceError) : Prop :=
  match outcome with
  | .refused e' => e' = e
  | .stream items => .error e ∈ items

/-- An event without a completion is a failure of the engine. -/
theorem RequestOutput.firstOutput_error {event : RequestOutput} {e : ServiceError}
    (h : event.firstOutput = .error e) : ∃ reason, e = .inference reason := by
  unfold firstOutput at h
  split at h
  · exact nomatch h
  · exact ⟨_, (Except.error.inj h).symm⟩

/-- What is observed fails as a failure of the engine. -/
theorem Emitter.observe_error {emitter : Emitter} {event : RequestOutput} {e : ServiceError}
    (h : emitter.observe event = .error e) : ∃ reason, e = .inference reason := by
  unfold observe at h
  split at h
  · rcases of_bind_eq_error h with hfirst | ⟨output, -, hok⟩
    · exact RequestOutput.firstOutput_error hfirst
    · exact nomatch hok
  · exact nomatch h

/-- An item fails with its own error, or as a failure of the engine. -/
theorem Emitter.receive_error {emitter : Emitter} {item : Item} {e : ServiceError}
    (h : emitter.receive item = .error e) : item = .error e ∨ ∃ reason, e = .inference reason := by
  cases item with
  | error failure => exact .inl (congrArg _ (Except.error.inj h))
  | ok event =>
    rcases of_bind_eq_error h with hobserve | ⟨next, -, hok⟩
    · exact .inr (observe_error hobserve)
    · exact nomatch hok

/-- What is left of a generation fails as a failure of the engine. -/
theorem finalBodies_error {emitter : Emitter} {requestId : String} {now : Int64} {e : ServiceError}
    (h : finalBodies emitter requestId now = .error e) : ∃ reason, e = .inference reason := by
  rcases of_bind_eq_error h with hfinish | ⟨body, -, hok⟩
  · unfold Emitter.finish at hfinish
    split at hfinish
    · exact ⟨_, (Except.error.inj hfinish).symm⟩
    · rcases of_bind_eq_error hfinish with hfirst | ⟨output, -, hok⟩
      · exact RequestOutput.firstOutput_error hfirst
      · exact nomatch hok
  · exact nomatch hok

/-- What is left of a generation is one body. -/
theorem finalBodies_ok {emitter : Emitter} {requestId : String} {now : Int64} {bodies : List String}
    (h : finalBodies emitter requestId now = .ok bodies) : ∃ body, bodies = [body] := by
  obtain ⟨body, -, hok⟩ := exists_of_bind_eq_ok h
  exact ⟨body, (Except.ok.inj hok).symm⟩

section

variable {ctx : Context} (hsink : ctx.sink.NeverRefuses) {requestId : String}
  {others : List String} (hids : ctx.requestIds = requestId :: others) {e : ServiceError}

include hsink hids

/-- A relay fails with the error of an item, or as a failure of the engine. -/
theorem relay_error {emitter : Emitter} {sent : List Intermediate} {items : List Item}
    (h : (relay ctx emitter sent items).result = .error e) :
    .error e ∈ items ∨ ∃ reason, e = .inference reason := by
  induction items generalizing emitter sent with
  | nil => cases h
  | cons item items ih =>
    cases hreceive : emitter.receive item with
    | error e' =>
      rw [relay_cons_of_error hreceive] at h
      obtain rfl := Except.error.inj h
      rcases Emitter.receive_error hreceive with rfl | hkind
      · exact .inl List.mem_cons_self
      · exact .inr hkind
    | ok next =>
      obtain ⟨chunk?, next, last⟩ := next
      rw [relay_cons_of_neverRefuses hsink hids hreceive] at h
      cases last with
      | true => cases h
      | false => exact (ih h).imp_left (List.mem_cons_of_mem item)

/-- A relayed answer is cancelled only by the engine. -/
theorem Outcome.fails_of_relayed {outcome : Outcome} {stream : Bool} {now : Int64} {id : String}
    (h : (outcome.relayed ctx stream).bodies requestId now = .error (.cancelled id)) :
    outcome.Fails (.cancelled id) := by
  rcases of_bind_eq_error h with hrelayed | ⟨emitter, -, hfinal⟩
  · cases outcome with
    | refused failure => exact Except.error.inj hrelayed
    | stream items =>
      rcases relay_error hsink hids hrelayed with hmem | ⟨reason, hreason⟩
      · exact hmem
      · exact nomatch hreason
  · obtain ⟨reason, hreason⟩ := finalBodies_error hfinal
    exact nomatch hreason

end

section

variable (handler : Handler) (batch : List RequestItem) {ctx : Context} {requestId : String}
  {others : List String} (hids : ctx.requestIds = requestId :: others) (now : Int64)
  (elapsed : Number.Binary Number.binary64)

include hids

/-- A run is rejected, or relays the answer to one call. -/
theorem Handler.run_cases :
    let run := handler.run batch ctx now elapsed
    (∃ e, run.result = .error e ∧ ∀ id, e ≠ .cancelled id) ∨
      ∃ (call : Call) (stream : Bool) (count : Nat), run.pulls = [⟨call, count⟩] ∧
        run.result = ((handler.engine handler.calls call).relayed ctx stream).bodies requestId
          now := by
  intro run
  rcases preprocess_cases handler.adapters batch ctx with ⟨e, he⟩ | ⟨request, hok⟩
  · obtain ⟨hresult, -, -⟩ : run.result = _ ∧ _ ∧ _ := handle_of_error now elapsed he
    exact .inl ⟨e, hresult, preprocess_error_ne_cancelled handler.adapters he⟩
  · obtain ⟨hresult, hpulls, -⟩ : run.result =
          ((handler.engine handler.calls (request.call requestId)).relayed ctx
            request.stream).bodies requestId now ∧
        run.pulls = [⟨request.call requestId, _⟩] ∧ _ := handle_of_call now elapsed hok hids
    exact .inr ⟨_, _, _, hpulls, hresult⟩

/-- A run whose sink takes everything is cancelled only by the engine. -/
theorem fails_of_cancelled (hsink : ctx.sink.NeverRefuses) {id : String}
    (h : (handler.run batch ctx now elapsed).result = .error (.cancelled id)) :
    ∃ pull ∈ (handler.run batch ctx now elapsed).pulls,
      (handler.engine handler.calls pull.call).Fails (.cancelled id) := by
  rcases handler.run_cases batch hids now elapsed with
    ⟨e, hresult, hkind⟩ | ⟨call, stream, count, hpulls, hresult⟩
  · exact absurd (Except.error.inj (hresult.symm.trans h)) (hkind id)
  · rw [hresult] at h
    rw [hpulls]
    exact ⟨_, List.mem_singleton_self _, Outcome.fails_of_relayed hsink hids h⟩

/-- A run that goes well returns one body. -/
theorem exists_of_run_ok {bodies : List String}
    (h : (handler.run batch ctx now elapsed).result = .ok bodies) : ∃ body, bodies = [body] := by
  rcases handler.run_cases batch hids now elapsed with
    ⟨e, hresult, -⟩ | ⟨call, stream, count, -, hresult⟩
  · exact nomatch hresult.symm.trans h
  · obtain ⟨emitter, -, hfinal⟩ := exists_of_bind_eq_ok (hresult.symm.trans h)
    exact finalBodies_ok hfinal

end

/-! ## Predictions over HTTP -/

namespace Http

variable (server : Server) (request : Request) (requestId : String) (now : Int64)
  (elapsed : Number.Binary Number.binary64)

/-- The run of the handler for a request whose client stays. -/
def Server.handled : Run (List String) :=
  server.handler.run [.ofBody request.body]
    { requestIds := [requestId], headers := [itemHeaders request] } now elapsed

/-- The exchange that a request opens. -/
def Server.exchange : Exchange :=
  .ofBatch server.handler [.ofBody request.body]
    { requestIds := [requestId], headers := [itemHeaders request] } requestId now

/-- A request for a completion of the model that is served, with a body that is read. -/
structure Server.Serves (server : Server) (request : Request) : Prop where
  method : request.method = "POST"
  route : ∃ segment, Route.ofPath? (pathOf request.target) = some (.predictions segment) ∧
    segmentText? segment = some server.modelName
  size : request.body.size ≤ bodyLimit

variable {server request} in
/-- Such a request reaches the handler. -/
theorem Server.answer_of_serves (h : server.Serves request) (client : Client) :
    server.answer request client requestId now elapsed =
      server.predict request client requestId now elapsed := by
  obtain ⟨segment, hroute, hname⟩ := h.route
  have hrefusal : server.refusal? segment request.body = none := by
    have hsize : ¬ bodyLimit < request.body.size := Nat.not_lt.mpr h.size
    simp only [Server.refusal?, hname, if_neg hsize, if_true]
  have hmethod : (Route.predictions segment).allowed.contains "POST" = true := rfl
  simp only [Server.answer, hroute, h.method, hmethod, hrefusal, Bool.not_true, Bool.false_eq_true,
    if_false]

/-- In every state of the exchange with a client that stays, what it has received and will receive
is what the run sends and returns. -/
theorem whole_of_reached_exchange {x : Exchange}
    (h : Relation.ReflTransGen Exchange.Step (server.exchange request requestId now) x)
    (hstays : x.connected = true) :
    x.whole = (server.handled request requestId now elapsed).emissions := by
  have htells : (server.exchange request requestId now).stage.tells requestId now =
      (server.handled request requestId now elapsed).emissions :=
    Exchange.tells_ofBatch server.handler _ (fun _ _ => rfl) rfl now elapsed
  rw [Exchange.whole_of_reached h hstays, ← htells]
  exact List.nil_append _

/-- The response to a client that stays. -/
theorem Server.response_predict :
    (server.predict request .stays requestId now elapsed).response =
      Emission.response (server.handled request requestId now elapsed).emissions := by
  obtain ⟨hreached, hstays, hnone⟩ := Exchange.reached_advanceUntil Exchange.isClosed
    (server.exchange request requestId now).turnsLeft (server.exchange request requestId now)
  have hclosed := Exchange.advanceUntil_isClosed
    (Nat.le_refl (server.exchange request requestId now).turnsLeft)
  have hwhole := whole_of_reached_exchange server request requestId now elapsed hreached hstays
  rw [Exchange.whole_of_isClosed hclosed, hnone] at hwhole
  exact congrArg Emission.response hwhole

/-- **No turn order matters.** Let the handler tell and a client that stays receive, in any order.
Then nothing that the run sends or returns is lost, repeated or put in another place; the exchange
can always be brought to its end; and there the client has read the response of the server. A run
that goes well is answered with status 200 and all its bodies, a line each. A run that fails is
answered with the status and the message of the failure, if nothing was sent, and else with status
200, a line for each body that was sent, and a break. -/
theorem response_refines_run
    (hkind : ∀ id, (server.handled request requestId now elapsed).result ≠
      .error (.cancelled id)) :
    let run := server.handled request requestId now elapsed
    let sent := run.sent.map (·.body)
    let response := (server.predict request .stays requestId now elapsed).response
    (server.Serves request →
      (server.answer request .stays requestId now elapsed).response = response) ∧
    (∀ x, Relation.ReflTransGen Exchange.Step (server.exchange request requestId now) x →
      x.connected = true → x.received ++ x.queue <+: run.emissions ∧
        (∃ y, Relation.ReflTransGen Exchange.Step x y ∧ y.connected = true ∧ y.Over) ∧
        (x.Over → (Reading.hearAll .waiting x.received).hear none =
          .over response.status response.frames response.ending)) ∧
    response.contentType? = some "application/json" ∧
    (∀ bodies, run.result = .ok bodies →
      response.status = 200 ∧ response.frames = (sent ++ bodies).map (· ++ "\n") ∧
        response.ending = .complete) ∧
    (∀ e, run.result = .error e → sent = [] →
      response.status = e.status ∧
        response.frames = [(Json.object [("error", .string e.message)]).text] ∧
        response.ending = .complete) ∧
    ∀ e, run.result = .error e → sent ≠ [] →
      response.status = 200 ∧ response.frames = sent.map (· ++ "\n") ∧
        response.ending = .broken e := by
  intro run sent response
  have hresponse : response = Emission.response run.emissions :=
    server.response_predict request requestId now elapsed
  have hother {e : ServiceError} (h : run.result = .error e) (id : String) : e ≠ .cancelled id :=
    fun he => hkind id (h.trans (congrArg _ he))
  refine ⟨fun hserves => ?_, fun x hreached hstays => ⟨?_, ?_, fun hover => ?_⟩, ?_, ?_, ?_, ?_⟩
  · rw [Server.answer_of_serves requestId now elapsed hserves]
  · rw [← whole_of_reached_exchange server request requestId now elapsed hreached hstays]
    exact List.prefix_append ..
  · obtain ⟨y, hy, hconnected, hover⟩ := x.exists_over
    exact ⟨y, hy, hconnected.trans hstays, hover⟩
  · have hwhole := whole_of_reached_exchange server request requestId now elapsed hreached hstays
    rw [Exchange.whole_of_isClosed hover.closed, hover.drained, List.append_nil] at hwhole
    rw [Reading.hear_none_hearAll, hwhole, hresponse]
  · rw [hresponse, Emission.contentType?_response]
  · intro bodies hok
    obtain ⟨body, rfl⟩ := exists_of_run_ok server.handler _ rfl now elapsed hok
    rw [hresponse, response_of_ok hok (List.cons_ne_nil _ _)]
    simp [sent]
  · intro e herror hnone
    rw [hresponse, response_of_error herror (hother herror) (List.map_eq_nil_iff.mp hnone)]
    simp [ServiceError.body]
  · intro e herror hsent
    have hne : run.sent ≠ [] := mt List.map_eq_nil_iff.mpr hsent
    rw [hresponse, response_of_error_of_sent herror (hother herror) hne]
    simp [sent]

/-- A generation that breaks off after its first chunk, which is a line of its own. -/
theorem response_refines_run_broken :
    let chunk : RequestOutput :=
      { requestId := "r", prompt := "p", outputs := [{ text := "é\n", tokenIds := [1] }] }
    let handler : Handler :=
      { engine := fun _ _ => .stream [.ok chunk, .error (.inference "lost")], args := .ofModel "m",
        adapters := ⟨"/models", [], []⟩ }
    let request : Request :=
      { method := "POST", target := "/predictions/m",
        body := (Json.object [("prompt", .string "p"), ("stream", .boolean true)]).text.toUTF8 }
    let run := Server.handled ⟨"m", handler⟩ request "r" 0 (.infinite false)
    let response :=
      (Server.predict ⟨"m", handler⟩ request .stays "r" 0 (.infinite false)).response
    (∀ id, run.result ≠ .error (.cancelled id)) ∧
      response.status = 200 ∧
      response.frames = ["\x7b\"text\":\"é\\n\",\"tokens\":1\x7d\n"] ∧
      response.ending = .broken (.inference "lost") := by
  intro chunk handler request run response
  have hlost : (match run.result with
      | .error (.inference reason) => some reason
      | _ => none) = some "lost" := by decide +kernel +revert
  have hsent : run.sent.map (·.body) = ["\x7b\"text\":\"é\\n\",\"tokens\":1\x7d"] := by
    decide +kernel +revert
  have hresult : run.result = .error (.inference "lost") := by
    split at hlost
    · rename_i reason hreason
      rw [hreason, Option.some.inj hlost]
    · exact nomatch hlost
  have hkind (id : String) : run.result ≠ .error (.cancelled id) := by
    rw [hresult]
    exact fun h => nomatch h
  obtain ⟨-, -, -, -, -, hbroken⟩ :=
    response_refines_run ⟨"m", handler⟩ request "r" 0 (.infinite false) hkind
  obtain ⟨hstatus, hframes, hending⟩ :=
    hbroken _ hresult (by rw [hsent]; exact List.cons_ne_nil _ _)
  rw [hsent] at hframes
  exact ⟨hkind, hstatus, hframes, hending⟩

/-- The status of an error is none of success. -/
theorem status_ne_ok (e : ServiceError) : e.status ≠ 200 := by
  cases e <;> simp [ServiceError.status]

/-- **A response tells how the run ended**, if the engine does not fail with a cancellation. It is a
whole body with status 200 exactly if the run went well. If the run failed before it sent anything,
the status is that of the failure; if it failed later, the body breaks off. -/
theorem response_tells_outcome
    (hengine : ∀ pull ∈ (server.handled request requestId now elapsed).pulls, ∀ id,
      ¬ (server.handler.engine server.handler.calls pull.call).Fails (.cancelled id)) :
    let run := server.handled request requestId now elapsed
    let response := (server.predict request .stays requestId now elapsed).response
    (server.Serves request →
      (server.answer request .stays requestId now elapsed).response = response) ∧
    (response.status = 200 ∧ response.ending = .complete ↔
      ∃ bodies, run.result = .ok bodies) ∧
    (∀ e, run.result = .error e → run.sent = [] → response.status = e.status) ∧
    ∀ e, run.result = .error e → run.sent ≠ [] → response.ending = .broken e := by
  intro run response
  have hresponse : response = Emission.response run.emissions :=
    server.response_predict request requestId now elapsed
  have hother {e : ServiceError} (h : run.result = .error e) (id : String) : e ≠ .cancelled id := by
    rintro rfl
    obtain ⟨pull, hpull, hfails⟩ :=
      fails_of_cancelled server.handler _ rfl now elapsed (fun _ _ => rfl) h
    exact hengine pull hpull id hfails
  have hbefore (e : ServiceError) (h : run.result = .error e) (hnone : run.sent = []) :
      response.status = e.status := by
    rw [hresponse, response_of_error h (hother h) hnone, Response.ofError_status]
  have hlater (e : ServiceError) (h : run.result = .error e) (hsent : run.sent ≠ []) :
      response.ending = .broken e := by
    rw [hresponse, response_of_error_of_sent h (hother h) hsent, Response.stream_ending]
  refine ⟨fun hserves => ?_, ⟨fun ⟨hstatus, hending⟩ => ?_, fun ⟨bodies, hok⟩ => ?_⟩, hbefore,
    hlater⟩
  · rw [Server.answer_of_serves requestId now elapsed hserves]
  · cases hresult : run.result with
    | ok bodies => exact ⟨bodies, rfl⟩
    | error e =>
      by_cases hnone : run.sent = []
      · exact absurd ((hbefore e hresult hnone).symm.trans hstatus) (status_ne_ok e)
      · exact nomatch (hlater e hresult hnone).symm.trans hending
  · obtain ⟨body, rfl⟩ := exists_of_run_ok server.handler _ rfl now elapsed hok
    rw [hresponse, response_of_ok hok (List.cons_ne_nil _ _)]
    exact ⟨Response.stream_status _ _, Response.stream_ending _ _⟩

/-- A generation that goes well. -/
theorem response_tells_outcome_whole :
    let chunk : RequestOutput :=
      { requestId := "r", prompt := "p", outputs := [{ text := "a", tokenIds := [1] }] }
    let handler : Handler :=
      { engine := fun _ _ => .stream [.ok chunk, .ok { chunk with finished := true }],
        args := .ofModel "m", adapters := ⟨"/models", [], []⟩ }
    let request : Request :=
      { method := "POST", target := "/predictions/m",
        body := (Json.object [("prompt", .string "p"), ("stream", .boolean true)]).text.toUTF8 }
    let run := Server.handled ⟨"m", handler⟩ request "r" 0 (.infinite false)
    let response :=
      (Server.predict ⟨"m", handler⟩ request .stays "r" 0 (.infinite false)).response
    (∀ pull ∈ run.pulls, ∀ id,
        ¬ (handler.engine handler.calls pull.call).Fails (.cancelled id)) ∧
      response.status = 200 ∧ response.ending = .complete := by
  intro chunk handler request run response
  have hok : run.result.isOk = true := by decide +kernel +revert
  have hengine (pull : Pull) (_ : pull ∈ run.pulls) (id : String) :
      ¬ (handler.engine handler.calls pull.call).Fails (.cancelled id) := by
    simp [handler, Outcome.Fails]
  refine ⟨hengine, (response_tells_outcome ⟨"m", handler⟩ request "r" 0 (.infinite false)
    hengine).2.1.mpr ?_⟩
  cases hresult : run.result with
  | ok bodies => exact ⟨bodies, rfl⟩
  | error e =>
    rw [hresult] at hok
    exact nomatch hok

/-- The request that a result says was cancelled. -/
def cancelledId? {α : Type} : Except ServiceError α → Option String
  | .error (.cancelled id) => some id
  | _ => none

theorem eq_error_of_cancelledId? {α : Type} {result : Except ServiceError α} {id : String}
    (h : cancelledId? result = some id) : result = .error (.cancelled id) := by
  unfold cancelledId? at h
  split at h
  · rw [Option.some.inj h]
  · cases h

/-- **A cancellation looks like the end.** An engine fails with one after a chunk: the run has
failed, but the client gets a whole body with status 200. -/
theorem cancellation_looks_whole :
    let chunk : RequestOutput :=
      { requestId := "r", prompt := "p", outputs := [{ text := "a", tokenIds := [1] }] }
    let handler : Handler :=
      { engine := fun _ _ => .stream [.ok chunk, .error (.cancelled "r")], args := .ofModel "m",
        adapters := ⟨"/models", [], []⟩ }
    let request : Request :=
      { method := "POST", target := "/predictions/m",
        body := (Json.object [("prompt", .string "p"), ("stream", .boolean true)]).text.toUTF8 }
    let run := Server.handled ⟨"m", handler⟩ request "r" 0 (.infinite false)
    let response :=
      (Server.predict ⟨"m", handler⟩ request .stays "r" 0 (.infinite false)).response
    run.result = .error (.cancelled "r") ∧ run.sent ≠ [] ∧ response.status = 200 ∧
      response.ending = .complete := by
  intro chunk handler request run response
  have hcancelled : cancelledId? run.result = some "r" := by decide +kernel +revert
  have hsent : run.sent.map (·.body) = [(⟨"a", some 1⟩ : StreamChunk).toJson.text] := by
    decide +kernel +revert
  have hresult : run.result = .error (.cancelled "r") := eq_error_of_cancelledId? hcancelled
  have hne : run.sent ≠ [] := by
    intro hnone
    rw [hnone] at hsent
    cases hsent
  have hresponse : response = .stream ((run.sent.map (·.body)).map (· ++ "\n")) .complete := by
    have h := Server.response_predict ⟨"m", handler⟩ request "r" 0 (.infinite false)
    rwa [response_of_cancelled hresult, if_neg hne] at h
  rw [hresponse]
  exact ⟨hresult, hne, Response.stream_status _ _, Response.stream_ending _ _⟩

end Http

end CompletionService
