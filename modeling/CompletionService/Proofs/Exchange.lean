import CompletionService.Http.Exchange
import CompletionService.Proofs.Transcript
import Mathlib.Logic.Relation

/-!
# Exchanges with a client that stays

The turns of the handler and of the client can come in any order. What the client receives does not
depend on it:

* `Emitter.tells` — what the handler still tells, computed from the items that are left. That is
  what a run of the handler sends and returns (`tells_ofBatch`).
* `Exchange.whole` — what was received, what is in the queue, and what the handler still tells.
  **Step**: no turn changes it, as long as the client stays (`whole_handlerTurn`, `whole_receive`);
  **run**: `whole_of_reached`. What was received is the start of it, even if the client has left
  (`received_isPrefix_of_reached`).
* `Reading` — how a client makes a status, frames and an ending of what it receives piece by piece,
  which are those of `Emission.response` of it all (`hear_none_hearAll`).

Every exchange can be brought to its end (`exists_over`), since the turns of the handler are bounded
(`turnsLeft_handlerTurn_lt`).
-/

namespace CompletionService

open Http

/-! ## What is told -/

/-- What the handler still tells, when these items are left. -/
def Emitter.tells (requestId : String) (now : Int64) (e : Emitter) : List Item → List Emission
  | [] => Emission.ofResult (finalBodies e requestId now)
  | item :: items =>
    match e.receive item with
    | .error failure => Emission.ofResult (.error failure)
    | .ok (chunk?, e, last) =>
      chunk?.toList.map (fun chunk => .body chunk.toJson.text) ++
        if last then Emission.ofResult (finalBodies e requestId now)
        else e.tells requestId now items

/-- What a run sends and returns, as the client is told it. -/
def Run.emissions (run : Run (List String)) : List Emission :=
  run.sent.map (.body ·.body) ++ Emission.ofResult run.result

/-- What is told of items is what their relay sends, and what it ends in. -/
theorem tells_eq_relay {ctx : Context} (hsink : ctx.sink.NeverRefuses) {requestId : String}
    {others : List String} (hids : ctx.requestIds = requestId :: others) (now : Int64)
    (e : Emitter) (sent : List Intermediate) (items : List Item) :
    let relayed := relay ctx e sent items
    relayed.sent.map (Emission.body ·.body) ++
        Emission.ofResult (relayed.bodies requestId now) =
      sent.map (Emission.body ·.body) ++ e.tells requestId now items := by
  induction items generalizing e sent with
  | nil => rfl
  | cons item items ih =>
    rw [Emitter.tells]
    cases hreceive : e.receive item with
    | error failure =>
      rw [relay_cons_of_error hreceive]
      rfl
    | ok next =>
      obtain ⟨chunk?, next, last⟩ := next
      rw [relay_cons_of_neverRefuses hsink hids hreceive]
      have hsent : (sent ++ chunk?.toList.map (·.response requestId)).map (Emission.body ·.body) =
          sent.map (Emission.body ·.body) ++
            chunk?.toList.map fun chunk => Emission.body chunk.toJson.text := by
        rw [List.map_append, List.map_map]
        rfl
      simp only
      rw [← List.append_assoc, ← hsent]
      cases last with
      | true => rfl
      | false => exact ih next _

/-- A batch that is accepted holds one request. -/
theorem preprocess_cases (adapters : AdapterTable) (batch : List RequestItem) (ctx : Context) :
    (∃ e, (preprocess adapters batch ctx).result = .error e) ∨
      ∃ request, (preprocess adapters batch ctx).result = .ok [request] := by
  match batch with
  | [] => exact .inl ⟨_, rfl⟩
  | _ :: _ :: _ => exact .inl ⟨_, rfl⟩
  | [item] =>
    simp only [preprocess]
    rcases decodePayload item with e | members
    · exact .inl ⟨e, rfl⟩
    · simp only
      rcases CompletionRequest.prepare members adapters with ⟨e | request, after⟩
      · exact .inl ⟨e, rfl⟩
      · exact .inr ⟨request, rfl⟩

namespace Http

/-- What the handler still tells at a stage. -/
def Stage.tells (requestId : String) (now : Int64) : Stage → List Emission
  | .pulling emitter items => emitter.tells requestId now items
  | .sending chunk last emitter items => .body chunk.toJson.text ::
      if last then Emission.ofResult (finalBodies emitter requestId now)
      else emitter.tells requestId now items
  | .closing result => Emission.ofResult result
  | .closed _ => []

namespace Exchange

variable {x y start : Exchange}

/-- **What is told at the start** is what a run of the handler sends and returns. -/
theorem tells_ofBatch (handler : Handler) (batch : List RequestItem) {ctx : Context}
    (hsink : ctx.sink.NeverRefuses) {requestId : String} {others : List String}
    (hids : ctx.requestIds = requestId :: others) (now : Int64)
    (elapsed : Number.Binary Number.binary64) :
    (ofBatch handler batch ctx requestId now).stage.tells requestId now =
      (handler.run batch ctx now elapsed).emissions := by
  rw [Handler.run, Run.emissions]
  rcases preprocess_cases handler.adapters batch ctx with ⟨e, he⟩ | ⟨request, hok⟩
  · -- the batch is rejected
    obtain ⟨hresult, -, hsent⟩ :
        (handle handler.engine handler.calls handler.adapters batch ctx now elapsed).result = _ ∧
          _ ∧ _ := handle_of_error now elapsed he
    rw [hresult, hsent]
    simp only [ofBatch, he]
    rfl
  · -- the engine is asked
    obtain ⟨hresult, -, hsent⟩ :
        (handle handler.engine handler.calls handler.adapters batch ctx now elapsed).result =
            ((handler.engine handler.calls (request.call requestId)).relayed ctx
              request.stream).bodies requestId now ∧ _ ∧ _ := handle_of_call now elapsed hok hids
    rw [hresult, hsent]
    simp only [ofBatch, hok]
    cases handler.engine handler.calls (request.call requestId) with
    | refused e => rfl
    | stream items =>
      exact (tells_eq_relay hsink hids now { stream := request.stream } [] items).symm

/-! ## Turns -/

/-- Everything that the client has received or will receive if it stays. -/
def whole (x : Exchange) : List Emission :=
  x.received ++ x.queue ++ x.stage.tells x.requestId x.now

/-- What is told after an item. -/
theorem tells_afterItem (x : Exchange) (last : Bool) (emitter : Emitter) (items : List Item) :
    (x.afterItem last emitter items).tells x.requestId x.now =
      if last then Emission.ofResult (finalBodies emitter x.requestId x.now)
      else emitter.tells x.requestId x.now items := by
  cases last <;> rfl

/-- Taking an item tells nothing yet. -/
theorem tells_afterTaking (x : Exchange) (emitter : Emitter) (item : Item) (items : List Item) :
    (x.afterTaking emitter item items).tells x.requestId x.now =
      emitter.tells x.requestId x.now (item :: items) := by
  rw [afterTaking, Emitter.tells]
  rcases emitter.receive item with e | ⟨_ | chunk, next, last⟩
  · rfl
  · exact x.tells_afterItem last next items
  · rfl

/-- What a turn of the handler leaves as it is. -/
theorem handlerTurn_frame (x : Exchange) :
    x.handlerTurn.requestId = x.requestId ∧ x.handlerTurn.now = x.now ∧
      x.handlerTurn.connected = x.connected ∧ x.handlerTurn.received = x.received := by
  unfold handlerTurn emit
  split
  case h_3 => split <;> exact ⟨rfl, rfl, rfl, rfl⟩
  case h_4 => split <;> exact ⟨rfl, rfl, rfl, rfl⟩
  all_goals exact ⟨rfl, rfl, rfl, rfl⟩

/-- **Step**: what the handler emits goes into the queue. -/
theorem whole_handlerTurn (h : x.connected = true) : x.handlerTurn.whole = x.whole := by
  unfold handlerTurn
  split
  case h_1 emitter hstage => simp only [whole, hstage, Stage.tells, Emitter.tells]
  case h_2 emitter item items hstage =>
    rw [whole, whole, hstage]
    exact congrArg _ (x.tells_afterTaking emitter item items)
  case h_3 chunk last emitter items hstage =>
    rw [if_pos h, whole, whole, hstage, Stage.tells, ← x.tells_afterItem last emitter items]
    simp [emit, h]
  case h_4 result hstage => simp [whole, emit, h, hstage, Stage.tells]
  case h_5 => rfl

/-- **Step**: what the client receives leaves the queue. -/
theorem whole_receive (x : Exchange) : x.receive.whole = x.whole := by
  rw [receive]
  split
  · rfl
  · rename_i first rest hqueue
    simp [whole, hqueue]

/-- A client that receives stays. -/
theorem connected_receive (x : Exchange) : x.receive.connected = x.connected := by
  rw [receive]
  split <;> rfl

/-- **Run**: as long as the client stays, nothing is lost, repeated or put in another place. -/
theorem whole_of_reached (h : Relation.ReflTransGen Step start x) (hstays : x.connected = true) :
    x.whole = start.whole := by
  induction h with
  | refl => rfl
  | @tail y _ _ hstep ih =>
    cases hstep with
    | handler =>
      rw [y.handlerTurn_frame.2.2.1] at hstays
      rw [whole_handlerTurn hstays, ih hstays]
    | receive =>
      rw [y.connected_receive] at hstays
      rw [y.whole_receive, ih hstays]
    | leave => exact nomatch hstays

/-- Without anybody who listens, the handler puts nothing into the queue. -/
theorem queue_handlerTurn (h : x.connected = false) : x.handlerTurn.queue = x.queue := by
  unfold handlerTurn emit
  split
  case h_3 => simp [h]
  case h_4 => simp [h]
  all_goals rfl

/-- When the client has left, nothing is in the queue. -/
theorem queue_of_reached (h : Relation.ReflTransGen Step start x) (hstart : start.connected = true)
    (hleft : x.connected = false) : x.queue = [] := by
  induction h with
  | refl => exact absurd hstart (by rw [hleft]; exact Bool.false_ne_true)
  | @tail y _ _ hstep ih =>
    cases hstep with
    | handler =>
      rw [y.handlerTurn_frame.2.2.1] at hleft
      rw [queue_handlerTurn hleft, ih hleft]
    | receive =>
      rw [y.connected_receive] at hleft
      rw [receive, ih hleft]
      exact ih hleft
    | leave => rfl

/-- **Run**: whether the client stays or leaves, what it has received comes first. -/
theorem received_isPrefix_of_reached (h : Relation.ReflTransGen Step start x)
    (hstart : start.connected = true) : x.received <+: start.whole := by
  have hwhole : start.received <+: start.whole := by
    rw [whole, List.append_assoc]
    exact List.prefix_append ..
  induction h with
  | refl => exact hwhole
  | @tail y _ hreached hstep ih =>
    cases hstep with
    | handler =>
      rw [y.handlerTurn_frame.2.2.2]
      exact ih
    | receive =>
      cases hstays : y.connected with
      | true =>
        rw [← whole_of_reached hreached hstays, ← y.whole_receive, whole, List.append_assoc]
        exact List.prefix_append ..
      | false =>
        rw [receive, queue_of_reached hreached hstart hstays]
        exact ih
    | leave => exact ih

/-! ## The end of an exchange -/

/-- The handler has a bounded number of turns. -/
theorem turnsLeft_handlerTurn_lt (h : x.isClosed = false) :
    x.handlerTurn.turnsLeft < x.turnsLeft := by
  unfold handlerTurn
  split
  case h_1 emitter hstage => simp [turnsLeft, hstage]
  case h_2 emitter item items hstage =>
    rw [afterTaking]
    rcases emitter.receive item with e | ⟨_ | chunk, next, last⟩
    · simp [turnsLeft, hstage]
    · cases last <;> simp [turnsLeft, hstage, afterItem]
    · simp only [turnsLeft, hstage, List.length_cons]
      omega
  case h_3 chunk last emitter items hstage =>
    cases last <;> split <;> simp [turnsLeft, hstage, afterItem]
  case h_4 result hstage => simp [turnsLeft, hstage]
  case h_5 result hstage => simp [isClosed, hstage] at h

/-- The handler is done, and the client has received everything. -/
structure Over (x : Exchange) : Prop where
  closed : x.isClosed = true
  drained : x.queue = []

/-- The handler gets to its end in the turns that it has. -/
theorem advanceUntil_isClosed {turns : Nat} (h : x.turnsLeft ≤ turns) :
    (x.advanceUntil isClosed turns).isClosed = true := by
  induction turns generalizing x with
  | zero =>
    unfold turnsLeft at h
    split at h <;> omega
  | succ turns ih =>
    rw [advanceUntil]
    cases hclosed : x.isClosed with
    | true => simpa using hclosed
    | false =>
      have hlt := turnsLeft_handlerTurn_lt hclosed
      exact ih (by omega)

/-- Turns of the handler alone: the client stays and receives nothing. -/
theorem reached_advanceUntil (done : Exchange → Bool) (turns : Nat) (x : Exchange) :
    Relation.ReflTransGen Step x (x.advanceUntil done turns) ∧
      (x.advanceUntil done turns).connected = x.connected ∧
      (x.advanceUntil done turns).received = x.received := by
  induction turns generalizing x with
  | zero => exact ⟨.refl, rfl, rfl⟩
  | succ turns ih =>
    rw [advanceUntil]
    split
    · exact ⟨.refl, rfl, rfl⟩
    · obtain ⟨hreached, hconnected, hreceived⟩ := ih x.handlerTurn
      obtain ⟨-, -, hstays, hsame⟩ := x.handlerTurn_frame
      exact ⟨.head (.handler x) hreached, hconnected.trans hstays, hreceived.trans hsame⟩

/-- When the handler is done, nothing is left to tell. -/
theorem whole_of_isClosed (h : x.isClosed = true) : x.whole = x.received ++ x.queue := by
  unfold isClosed at h
  split at h
  · rename_i hstage
    rw [whole, hstage, Stage.tells, List.append_nil]
  · exact nomatch h

/-- The client can empty the queue. -/
theorem exists_drained (x : Exchange) : ∃ y, Relation.ReflTransGen Step x y ∧
    y.connected = x.connected ∧ y.isClosed = x.isClosed ∧ y.queue = [] := by
  generalize hqueue : x.queue = queue
  induction queue generalizing x with
  | nil => exact ⟨x, .refl, rfl, rfl, hqueue⟩
  | cons first rest ih =>
    have hreceive : x.receive = { x with queue := rest, received := x.received ++ [first] } := by
      rw [receive, hqueue]
    obtain ⟨y, hreached, hconnected, hclosed, hdrained⟩ := ih x.receive (by rw [hreceive])
    refine ⟨y, .head (.receive x) hreached, ?_, ?_, hdrained⟩
    · rw [hconnected, connected_receive]
    · rw [hclosed, hreceive]
      rfl

/-- Every exchange can be brought to its end. -/
theorem exists_over (x : Exchange) :
    ∃ y, Relation.ReflTransGen Step x y ∧ y.connected = x.connected ∧ y.Over := by
  obtain ⟨hsettled, hstays, -⟩ := reached_advanceUntil isClosed x.turnsLeft x
  obtain ⟨y, hreached, hconnected, hclosed, hdrained⟩ := exists_drained x.settle
  refine ⟨y, hsettled.trans hreached, hconnected.trans hstays, ?_, hdrained⟩
  rw [hclosed]
  exact advanceUntil_isClosed (Nat.le_refl _)

end Exchange

/-! ## Reading a response -/

/-- How far a client has come in reading a response. -/
inductive Reading
  /-- nothing was received, and the status is open -/
  | waiting
  /-- the status is known, and these frames were received -/
  | reading (frames : List String)
  /-- nothing more will come -/
  | over (status : Nat) (frames : List String) (ending : Ending)

namespace Reading

/-- What the next emission adds; when there is none, the handler is done. A body is a line of a
stream. A failure that comes first is a response of its own, a later one breaks the stream off. -/
def hear : Reading → Option Emission → Reading
  | .waiting, some (.body text) => .reading [text ++ "\n"]
  | .waiting, some (.failed e) => .over e.status [e.body] .complete
  | .waiting, none =>
    .over 500 [(ServiceError.other "handler finished without a response").body] .complete
  | .reading frames, some (.body text) => .reading (frames ++ [text ++ "\n"])
  | .reading frames, some (.failed e) => .over 200 frames (.broken e)
  | .reading frames, none => .over 200 frames .complete
  | .over status frames ending, _ => .over status frames ending

/-- Emissions one after the other. -/
def hearAll (r : Reading) : List Emission → Reading
  | [] => r
  | first :: rest => hearAll (r.hear (some first)) rest

/-- Nothing is heard after the end. -/
theorem hearAll_over (status : Nat) (frames : List String) (ending : Ending)
    (emissions : List Emission) :
    hearAll (.over status frames ending) emissions = .over status frames ending := by
  induction emissions with
  | nil => rfl
  | cons first rest ih => exact ih

/-- Once the status is known, the frames up to a failure are read. -/
theorem hear_none_hearAll_reading (frames : List String) (emissions : List Emission) :
    (hearAll (.reading frames) emissions).hear none =
      .over 200 (frames ++ Emission.frames emissions) (Emission.ending emissions) := by
  induction emissions generalizing frames with
  | nil => simp [hearAll, hear, Emission.frames, Emission.ending]
  | cons first rest ih =>
    cases first with
    | body text =>
      rw [hearAll, hear, ih, Emission.frames, Emission.ending, List.append_assoc,
        List.singleton_append]
    | failed e =>
      rw [hearAll, hear, hearAll_over, Emission.frames, Emission.ending, List.append_nil]
      rfl

/-- **Piece by piece or at once**: what is read in the end is the response to all emissions. -/
theorem hear_none_hearAll (emissions : List Emission) :
    let response := Emission.response emissions
    (hearAll .waiting emissions).hear none =
      .over response.status response.frames response.ending := by
  cases emissions with
  | nil => rfl
  | cons first rest =>
    cases first with
    | body text =>
      rw [hearAll, hear, hear_none_hearAll_reading]
      simp [Emission.response, Emission.frames]
    | failed e =>
      rw [hearAll, hear, hearAll_over]
      simp [Emission.response, hear]

end Reading

/-! ## The response to a run -/

namespace Emission

/-- Bodies are frames, each with its line end. -/
theorem frames_append (bodies : List String) (others : List Emission) :
    frames (bodies.map .body ++ others) = bodies.map (· ++ "\n") ++ frames others := by
  induction bodies with
  | nil => rfl
  | cons body rest ih => exact congrArg _ ih

/-- The end comes after the bodies. -/
theorem ending_append (bodies : List String) (others : List Emission) :
    ending (bodies.map .body ++ others) = ending others := by
  induction bodies with
  | nil => rfl
  | cons body rest ih => exact ih

/-- Every response is a JSON text, or a stream of them. -/
theorem contentType?_response (emissions : List Emission) :
    (response emissions).contentType? = some "application/json" := by
  cases emissions with
  | nil => exact Response.ofError_contentType? _
  | cons first rest =>
    cases first with
    | body text => exact Response.stream_contentType? _ _
    | failed e => exact Response.ofError_contentType? e

/-- A first body decides about the status. -/
theorem response_append {bodies : List String} (hne : bodies ≠ []) (others : List Emission) :
    response (bodies.map .body ++ others) =
      .stream (bodies.map (· ++ "\n") ++ frames others) (ending others) := by
  obtain ⟨body, rest, rfl⟩ := List.exists_cons_of_ne_nil hne
  rw [← frames_append, ← ending_append (body :: rest) others]
  rfl

end Emission

end Http

section

variable {run : Run (List String)} {e : ServiceError}

/-- The emissions of a run, in terms of the bodies that were sent. -/
theorem Run.emissions_eq (run : Run (List String)) :
    run.emissions = (run.sent.map (·.body)).map Emission.body ++ Emission.ofResult run.result := by
  rw [emissions, List.map_map]
  rfl

/-- The response to a run that went well: all bodies. -/
theorem response_of_ok {bodies : List String} (h : run.result = .ok bodies) (hne : bodies ≠ []) :
    Emission.response run.emissions =
      .stream ((run.sent.map (·.body) ++ bodies).map (· ++ "\n")) .complete := by
  have hall : run.emissions = (run.sent.map (·.body) ++ bodies).map Emission.body ++ [] := by
    rw [run.emissions_eq, h, List.map_append, List.append_nil]
    rfl
  rw [hall, Emission.response_append (List.append_ne_nil_of_right_ne_nil _ hne)]
  simp only [Emission.frames, Emission.ending, List.append_nil]

/-- The response to a run that failed before it sent anything: the failure. -/
theorem response_of_error (h : run.result = .error e) (hkind : ∀ id, e ≠ .cancelled id)
    (hnone : run.sent = []) : Emission.response run.emissions = .ofError e := by
  rw [run.emissions_eq, h, hnone]
  cases e with
  | cancelled id => exact absurd rfl (hkind id)
  | _ => rfl

/-- The response to a run that failed later: what was sent, and a break. -/
theorem response_of_error_of_sent (h : run.result = .error e) (hkind : ∀ id, e ≠ .cancelled id)
    (hsent : run.sent ≠ []) : Emission.response run.emissions =
      .stream ((run.sent.map (·.body)).map (· ++ "\n")) (.broken e) := by
  rw [run.emissions_eq, Emission.response_append (mt List.map_eq_nil_iff.mp hsent), h]
  cases e with
  | cancelled id => exact absurd rfl (hkind id)
  | _ => simp [Emission.ofResult, Emission.frames, Emission.ending]

/-- The response to a run that was cancelled: what was sent, as if it were all. -/
theorem response_of_cancelled {id : String} (h : run.result = .error (.cancelled id)) :
    Emission.response run.emissions =
      if run.sent = [] then .ofError (.other "handler finished without a response")
      else .stream ((run.sent.map (·.body)).map (· ++ "\n")) .complete := by
  rw [run.emissions_eq, h]
  split
  · rename_i hnone
    rw [hnone]
    rfl
  · rename_i hsent
    rw [Emission.response_append (mt List.map_eq_nil_iff.mp hsent)]
    simp [Emission.ofResult, Emission.frames, Emission.ending]

end

end CompletionService
