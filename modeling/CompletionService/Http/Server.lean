import CompletionService.Http.Exchange
import CompletionService.Http.Route

/-!
# The server

The answers to HTTP requests: whether the service is up, the description of the model that is
served, and predictions, which are streams of JSON texts with a line end after each.
-/

namespace CompletionService.Http

/-- A handler, and the name under which its model is served. -/
structure Server where
  modelName : String
  handler : Handler

/-- What the client does with the response. -/
inductive Client
  /-- reads it to the end -/
  | stays
  /-- leaves after so many frames; the engine then waits before the item with that number -/
  | leaves (after : Nat)

/-- What came of a request. -/
structure Answer where
  response : Response
  server : Server
  pulls : List Pull := []
  log : List Log.Event := []

/-- The largest body that is read, in bytes. -/
def bodyLimit : Nat := 2097152

/-! ## Reports -/

/-- A report of the server. -/
def serverEvent (level : Log.Level) (message : String) (fields : List (String × Log.Value)) :
    Log.Event :=
  { level, target := "vllm_handler_service::server", message, fields }

/-- The report of a chunk that is offered to the client. -/
def offerEvent (i : Intermediate) : Log.Event :=
  serverEvent .debug "intermediate response" [("request_id", .quoted i.requestId),
    ("message", .quoted i.message), ("status", .plain (toString i.status))]

/-- The report of how a run ended; a run that went well has none. -/
def resultEvents (requestId : String) : Except ServiceError (List String) → List Log.Event
  | .ok _ => []
  | .error (.cancelled id) =>
    [serverEvent .debug "client went away; generation abandoned" [("request_id", .plain id)]]
  | .error e => [serverEvent .warn "request failed"
      [("request_id", .plain requestId), ("error", .plain e.message)]]

/-- The report of a measurement. -/
def metricEvent (requestId : String) (m : Metric) : Log.Event :=
  let value := match m.value with
    | .finite x => String.ofList (x.write Number.plainLayout)
    | .infinite negative => if negative then "-inf" else "inf"
  serverEvent .info "handler metric" [("request_id", .plain requestId),
    ("metric", .plain m.name), ("value", .plain value), ("unit", .plain m.unit)]

/-- All reports about a run. -/
def runEvents (requestId : String) (run : Run (List String)) : List Log.Event :=
  run.log ++ (run.sent ++ run.refused.toList).map offerEvent ++ resultEvents requestId run.result ++
    run.metrics.map (metricEvent requestId)

/-! ## Answers -/

/-- What the handler learns from the headers: those that are texts, and the path. -/
def itemHeaders (request : Request) : List (String × String) :=
  let isText (octets : ByteArray) : Bool :=
    octets.toList.all fun b => b == 0x09 || (0x20 ≤ b && b < 0x7F)
  let texts := request.headers.filterMap fun (name, octets) =>
    if isText octets then (String.fromUTF8? octets).map (name.toLower, ·) else none
  ("url_path", withoutLeadingSlashes (pathOf request.target)) :: texts.reverse

/-- The description of the model that is served. -/
def Server.description (server : Server) : String :=
  (Json.object [
    ("model_name", .string server.modelName),
    ("engine_args", .object server.handler.args.toMembers),
    ("adapters", Json.ofStrings server.handler.adapters.names)]).text

/-- The answer to a request for completions. `requestId` names it, `now` is the time that an
envelope bears, and `elapsed` what the work takes, in milliseconds. -/
def Server.predict (server : Server) (request : Request) (client : Client) (requestId : String)
    (now : Int64) (elapsed : Number.Binary Number.binary64) : Answer :=
  let batch := [RequestItem.ofBody request.body]
  let ctx : Context := { requestIds := [requestId], headers := [itemHeaders request] }
  let start := Exchange.ofBatch server.handler batch ctx requestId now
  let (response, sink) : Response × Sink := match client with
    | .stays => (Emission.response start.settle.queue, .unlimited)
    | .leaves after =>
      let paused := start.advance after
      ((Emission.response paused.queue).readUpTo after, .limited paused.accepted)
  let run := server.handler.run batch { ctx with sink } now elapsed
  {
    response
    server := { server with handler := server.handler.after run }
    pulls := run.pulls
    log := runEvents requestId run }

/-- The response to a path whose segment is no text. -/
def noName : Response := .plain 400 "Invalid URL: Invalid UTF-8 in `model_name`"

/-- The response with the description of a model, if it is the one that is served. -/
def Server.modelResponse (server : Server) (segment : String) : Response :=
  match segmentText? segment with
  | none => noName
  | some name =>
    if name = server.modelName then .json 200 server.description
    else .ofError (.modelNotFound name)

/-- The response to a request for completions that does not reach the handler. -/
def Server.refusal? (server : Server) (segment : String) (body : ByteArray) : Option Response :=
  match segmentText? segment with
  | none => some noName
  | some name =>
    if bodyLimit < body.size then
      some (.plain 413 "Failed to buffer the request body: length limit exceeded")
    else if name = server.modelName then none
    else some (.ofError (.modelNotFound name))

/-- The answer to a request. -/
def Server.answer (server : Server) (request : Request) (client : Client) (requestId : String)
    (now : Int64) (elapsed : Number.Binary Number.binary64) : Answer :=
  let got (response : Response) : Answer :=
    let response := if request.method = "HEAD" then response.headOnly else response
    match client with
    | .stays => { response, server }
    | .leaves after => { response := response.readUpTo after, server }
  -- the path is looked at before the method, and the name in it before the body
  match Route.ofPath? (pathOf request.target) with
  | none => got (.bare 404)
  | some route =>
    if !route.allowed.contains request.method then
      got { Response.bare 405 with allow? := some (",".intercalate route.allowed) }
    else match route with
      | .ping => got (.json 200 "\x7b\"status\":\"Healthy\"\x7d")
      | .model segment => got (server.modelResponse segment)
      | .predictions segment =>
        match server.refusal? segment request.body with
        | some response => got response
        | none => server.predict request client requestId now elapsed

end CompletionService.Http
