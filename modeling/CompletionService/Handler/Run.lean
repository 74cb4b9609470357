import CompletionService.Engine.Args
import CompletionService.Engine.Output
import CompletionService.Handler.Context
import CompletionService.Log.Event
import CompletionService.Request.Completion
import CompletionService.Request.Payload
import CompletionService.Response.Emitter

/-!
# Handling a request

The handler stands between the host and the engine. It takes a batch of exactly one request,
prepares it, runs one generation, and relays the events as intermediate and final responses.

* `preprocess` prepares a batch; only here the adapter table changes.
* `relay` takes the items of a generation one by one, up to the first that decides the run.
* `inference` asks the engine and relays its answer.
* `handle` is both, and measures the time.

A run gives all that can be seen of it: the result, the call to the engine with the number of items
taken, the intermediate responses, the measurements and the log.
-/

namespace CompletionService

/-- The part of the service that handles requests. -/
structure Handler where
  engine : Engine
  args : EngineArgs
  adapters : AdapterTable
  /-- the calls to the engine so far, oldest first -/
  calls : List Call := []

/-- A call to the engine, and how many items of the answer were taken. -/
structure Pull where
  call : Call
  count : Nat
  deriving DecidableEq

/-- All that can be seen of the work on a request. -/
structure Run (α : Type) where
  result : Except ServiceError α
  adapters : AdapterTable
  pulls : List Pull := []
  /-- the intermediate responses that the sink took -/
  sent : List Intermediate := []
  /-- the intermediate response that the sink did not take -/
  refused : Option Intermediate := none
  metrics : List Metric := []
  log : List Log.Event := []

/-- A report of the handler. -/
def handlerEvent (level : Log.Level) (message : String) (fields : List (String × Log.Value)) :
    Log.Event :=
  { level, target := "vllm_handler_service::handler", message, fields }

/-! ## Preprocessing -/

/-- The requests that a batch stands for, of which there must be one. -/
def preprocess (adapters : AdapterTable) (batch : List RequestItem) (ctx : Context) :
    Run (List CompletionRequest) :=
  match batch with
  | [item] =>
    let log := match ctx.header? 0 "url_path" with
      | some path => [handlerEvent .info "preprocessing request" [("url_path", .quoted path)]]
      | none => []
    match decodePayload item with
    | .error e => { result := .error e, adapters, log }
    | .ok members =>
      match CompletionRequest.prepare members adapters with
      | (.error e, adapters) => { result := .error e, adapters, log }
      | (.ok request, adapters) => { result := .ok [request], adapters, log }
  | batch =>
    { result := .error (.precondition s!"Expecting batch_size = 1, got {batch.length}"), adapters }

/-! ## Relaying -/

/-- What became of the items of a generation. -/
structure Relay where
  /-- the number of items that were taken -/
  pulled : Nat
  sent : List Intermediate
  refused : Option Intermediate := none
  /-- the emitter after the last item, or the failure that ended the relay -/
  result : Except ServiceError Emitter

/-- Sends the chunk that an event yielded, if any. -/
def sendChunk (ctx : Context) (sent : List Intermediate) : Option StreamChunk → Delivery
  | none => { taken := sent, result := .ok () }
  | some chunk => ctx.send sent [chunk.toJson.text] "Result" 200

/-- Takes the items of a generation, after `sent` was sent, up to the first that is a failure, that
cannot be relayed, or that is final. -/
def relay (ctx : Context) (emitter : Emitter) (sent : List Intermediate) : List Item → Relay
  | [] => { pulled := 0, sent, result := .ok emitter }
  | item :: rest =>
    match emitter.receive item with
    | .error e => { pulled := 1, sent, result := .error e }
    | .ok (chunk?, emitter, last) =>
      -- a chunk that nobody takes ends the relay, even if its item was the last
      let delivery := sendChunk ctx sent chunk?
      match delivery.result with
      | .error e =>
        { pulled := 1, sent := delivery.taken, refused := delivery.refused, result := .error e }
      | .ok _ =>
        if last then { pulled := 1, sent := delivery.taken, result := .ok emitter }
        else
          let later := relay ctx emitter delivery.taken rest
          { later with pulled := later.pulled + 1 }

/-- The final responses of a generation, once its items have been relayed. -/
def finalBodies (emitter : Emitter) (requestId : String) (now : Int64) :
    Except ServiceError (List String) := do
  return [← emitter.finish requestId now]

/-- What the engine is asked for a request. -/
def CompletionRequest.call (request : CompletionRequest) (requestId : String) : Call :=
  { prompt := request.prompt, params := request.params, requestId, lora := request.lora }

/-- Runs the first of the requests on the engine, after the calls `before`. `now` is the time that
an envelope bears. -/
def inference (engine : Engine) (before : List Call) (adapters : AdapterTable)
    (requests : List CompletionRequest) (ctx : Context) (now : Int64) : Run (List String) :=
  match requests, ctx.requestIds with
  | [], _ => { result := .error (.precondition "no request to run"), adapters }
  | _ :: _, [] => { result := .error (.precondition "missing request id"), adapters }
  | request :: _, requestId :: _ =>
    let call := request.call requestId
    let log := [handlerEvent .debug "inputs" []]
    match engine before call with
    | .refused e => { result := .error e, adapters, pulls := [⟨call, 0⟩], log }
    | .stream items =>
      let relayed := relay ctx { stream := request.stream } [] items
      let result := do finalBodies (← relayed.result) requestId now
      { result, adapters, pulls := [⟨call, relayed.pulled⟩], sent := relayed.sent,
        refused := relayed.refused, log }

/-- Final responses are passed on as they are. -/
def postprocess (outputs : List String) : List String := outputs

/-! ## Handling -/

/-- Preprocesses a batch, runs it and measures the time, which is `elapsed` milliseconds. -/
def handle (engine : Engine) (before : List Call) (adapters : AdapterTable)
    (batch : List RequestItem) (ctx : Context) (now : Int64)
    (elapsed : Number.Binary Number.binary64) : Run (List String) :=
  let prepared := preprocess adapters batch ctx
  match prepared.result with
  | .error e => { result := .error e, adapters := prepared.adapters, log := prepared.log }
  | .ok requests =>
    let run := inference engine before prepared.adapters requests ctx now
    -- only a run that went well is measured
    let metrics := match run.result with
      | .ok _ => [{ name := "HandlerTime", value := elapsed, unit := "ms" }]
      | .error _ => []
    { run with
      result := run.result.map postprocess
      metrics
      log := prepared.log ++ run.log }

namespace Handler

/-- The handler after a run: the adapters have changed and the engine was called. -/
def after {α : Type} (handler : Handler) (run : Run α) : Handler :=
  { handler with adapters := run.adapters, calls := handler.calls ++ run.pulls.map (·.call) }

/-- Handles a batch. -/
def run (handler : Handler) (batch : List RequestItem) (ctx : Context) (now : Int64)
    (elapsed : Number.Binary Number.binary64) : Run (List String) :=
  handle handler.engine handler.calls handler.adapters batch ctx now elapsed

end Handler

end CompletionService
