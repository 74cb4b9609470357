import CompletionService.ServiceError
import CompletionService.Number.Binary

/-!
# The context of a request

What the host hands to the handler along with a batch: request ids, headers, and a sink for
responses that are sent ahead of the final one. A sink may take or refuse each of them, depending on
what it took before.
-/

namespace CompletionService

/-- A response that is sent ahead of the final one. -/
structure Intermediate where
  requestId : String
  body : String
  message : String
  status : Nat
  deriving DecidableEq

/-- Where intermediate responses go: whether one is taken, after those taken before, oldest
first. -/
abbrev Sink := (taken : List Intermediate) → Intermediate → Except ServiceError Unit

namespace Sink

/-- Takes everything. -/
def unlimited : Sink := fun _ _ => .ok ()

/-- Takes so many responses; from then on nobody listens. -/
def limited (count : Nat) : Sink := fun taken response =>
  if taken.length < count then .ok () else .error (.cancelled response.requestId)

end Sink

/-- A measurement. -/
structure Metric where
  name : String
  value : Number.Binary Number.binary64
  unit : String

/-- What comes with a batch of requests. -/
structure Context where
  requestIds : List String
  /-- for each request, its headers -/
  headers : List (List (String × String)) := []
  sink : Sink := .unlimited

namespace Context

/-- The value of a header of a request. -/
def header? (ctx : Context) (request : Nat) (key : String) : Option String := do
  (← ctx.headers[request]?).lookup key

end Context

/-- What became of responses that were offered to a sink: those it took, the one that it refused, if
any, and how that ended. -/
structure Delivery where
  taken : List Intermediate
  refused : Option Intermediate := none
  result : Except ServiceError Unit

/-- Offers responses one after the other, until one is refused. -/
def Sink.deliver (sink : Sink) (taken : List Intermediate) : List Intermediate → Delivery
  | [] => { taken, result := .ok () }
  | response :: rest =>
    match sink taken response with
    | .ok _ => sink.deliver (taken ++ [response]) rest
    | .error e => { taken, refused := some response, result := .error e }

/-- The responses with these bodies, the first for the first request, and so on. -/
def Context.responses (ctx : Context) (bodies : List String) (message : String) (status : Nat) :
    List Intermediate :=
  ctx.requestIds.zipWith (fun requestId body => { requestId, body, message, status }) bodies

/-- Sends bodies ahead of the final response, when `taken` have been sent before. -/
def Context.send (ctx : Context) (taken : List Intermediate) (bodies : List String)
    (message : String) (status : Nat) : Delivery :=
  ctx.sink.deliver taken (ctx.responses bodies message status)

end CompletionService
