import CompletionService.Handler.Run
import CompletionService.Http.Message

/-!
# Exchanges

A prediction is answered by two parties that take turns in any order: the handler, which takes items
of the generation one by one and puts bodies into a queue, and the client, which takes bodies out of
it and may leave at any moment. An `Exchange` is the state of the two. `Exchange.Step` says how it
can change; `advance` and `settle` let the handler go on.

When the client has left, the handler notices it at the next chunk that it offers.
-/

namespace CompletionService.Http

/-- What the handler tells the client. -/
inductive Emission
  | body (text : String)
  | failed (error : ServiceError)

namespace Emission

/-- What the handler tells the client at the end. An abandoned generation has nothing to tell. -/
def ofResult : Except ServiceError (List String) → List Emission
  | .ok bodies => bodies.map .body
  | .error (.cancelled _) => []
  | .error e => [.failed e]

/-- The frames of a body. Each text is a line; a failure is no frame, and none comes after it. -/
def frames : List Emission → List String
  | [] => []
  | .body text :: rest => (text ++ "\n") :: frames rest
  | .failed _ :: _ => []

/-- How a body ends. -/
def ending : List Emission → Ending
  | [] => .complete
  | .failed e :: _ => .broken e
  | .body _ :: rest => ending rest

/-- The response to all that the handler tells. What comes first decides about the status. -/
def response : List Emission → Response
  | [] => .ofError (.other "handler finished without a response")
  | .failed e :: _ => .ofError e
  | .body text :: rest => .stream (frames (.body text :: rest)) (ending rest)

end Emission

/-- What the handler is about to do. -/
inductive Stage
  /-- take the next of the items -/
  | pulling (emitter : Emitter) (items : List Item)
  /-- send a chunk, and go on unless the item was the last that counts -/
  | sending (chunk : StreamChunk) (last : Bool) (emitter : Emitter) (items : List Item)
  /-- tell its result -/
  | closing (result : Except ServiceError (List String))
  /-- nothing more -/
  | closed (result : Except ServiceError (List String))

/-- The state of an exchange. -/
structure Exchange where
  requestId : String
  /-- the time that an envelope bears -/
  now : Int64
  stage : Stage
  /-- the number of items that the handler has taken -/
  pulled : Nat := 0
  /-- the number of chunks that the queue has taken -/
  accepted : Nat := 0
  /-- what the client has not received yet, oldest first -/
  queue : List Emission := []
  /-- what the client has received, oldest first -/
  received : List Emission := []
  connected : Bool := true

namespace Exchange

/-! ## Turns -/

/-- Puts something into the queue, as long as somebody listens. -/
def emit (x : Exchange) (emissions : List Emission) : Exchange :=
  if x.connected then { x with queue := x.queue ++ emissions } else x

/-- The stage after an item that did not fail. -/
def afterItem (x : Exchange) (last : Bool) (emitter : Emitter) (items : List Item) : Stage :=
  if last then .closing (finalBodies emitter x.requestId x.now) else .pulling emitter items

/-- The stage after an item is taken. -/
def afterTaking (x : Exchange) (emitter : Emitter) (item : Item) (items : List Item) : Stage :=
  match emitter.receive item with
  | .error e => .closing (.error e)
  | .ok (none, emitter, last) => x.afterItem last emitter items
  | .ok (some chunk, emitter, last) => .sending chunk last emitter items

/-- The turn of the handler. -/
def handlerTurn (x : Exchange) : Exchange :=
  match x.stage with
  | .pulling emitter [] => { x with stage := .closing (finalBodies emitter x.requestId x.now) }
  | .pulling emitter (item :: items) =>
    { x with stage := x.afterTaking emitter item items, pulled := x.pulled + 1 }
  | .sending chunk last emitter items =>
    if x.connected then
      { x.emit [.body chunk.toJson.text] with
        stage := x.afterItem last emitter items
        accepted := x.accepted + 1 }
    -- the chunk that is refused ends the work, whether or not its item was the last
    else { x with stage := .closing (.error (.cancelled x.requestId)) }
  | .closing result => { x.emit (Emission.ofResult result) with stage := .closed result }
  | .closed _ => x

/-- The client receives what is next in the queue. -/
def receive (x : Exchange) : Exchange :=
  match x.queue with
  | [] => x
  | first :: rest => { x with queue := rest, received := x.received ++ [first] }

/-- The client leaves; what it has not received is lost. -/
def leave (x : Exchange) : Exchange := { x with connected := false, queue := [] }

/-- The turns that an exchange can take. -/
inductive Step : Exchange → Exchange → Prop
  | handler (x : Exchange) : Step x x.handlerTurn
  | receive (x : Exchange) : Step x x.receive
  | leave (x : Exchange) : Step x x.leave

/-! ## Runs -/

/-- The handler is done. -/
def isClosed (x : Exchange) : Bool :=
  match x.stage with
  | .closed _ => true
  | _ => false

/-- The handler is about to take the item with this number. -/
def isBefore (x : Exchange) (number : Nat) : Bool :=
  match x.stage with
  | .pulling _ (_ :: _) => x.pulled == number
  | _ => false

/-- Turns of the handler until a condition holds. -/
def advanceUntil (done : Exchange → Bool) : (turns : Nat) → Exchange → Exchange
  | 0, x => x
  | turns + 1, x => if done x then x else advanceUntil done turns x.handlerTurn

/-- More turns than the handler can take. -/
def turnsLeft (x : Exchange) : Nat :=
  match x.stage with
  | .pulling _ items => 2 * items.length + 3
  | .sending _ _ _ items => 2 * items.length + 4
  | .closing _ => 2
  | .closed _ => 1

/-- The handler goes on until it is about to take the item with this number, or is done. -/
def advance (x : Exchange) (number : Nat) : Exchange :=
  x.advanceUntil (fun x => x.isClosed || x.isBefore number) x.turnsLeft

/-- The handler goes on until it is done. -/
def settle (x : Exchange) : Exchange := x.advanceUntil isClosed x.turnsLeft

end Exchange

/-! ## Opening -/

/-- An exchange that begins with a batch: the engine has been asked, or there was no reason to. -/
def Exchange.ofBatch (handler : Handler) (batch : List RequestItem) (ctx : Context)
    (requestId : String) (now : Int64) : Exchange :=
  let stage : Stage := match (preprocess handler.adapters batch ctx).result with
    | .error e => .closing (.error e)
    | .ok [] => .closing (.error (.precondition "no request to run"))
    | .ok (request :: _) =>
      match handler.engine handler.calls (request.call requestId) with
      | .refused e => .closing (.error e)
      | .stream items => .pulling { stream := request.stream } items
  { requestId, now, stage }

end CompletionService.Http
