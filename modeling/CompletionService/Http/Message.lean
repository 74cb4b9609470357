import CompletionService.ServiceError

/-!
# HTTP messages

Requests and responses, as far as the service looks at them. The body of a response is a list of
frames, which may break off with an error.
-/

namespace CompletionService.Http

/-- A request. -/
structure Request where
  method : String
  /-- the target, as it was sent -/
  target : String
  headers : List (String × ByteArray) := []
  body : ByteArray := .empty

/-- How the body of a response ends. -/
inductive Ending
  | complete
  | broken (error : ServiceError)
  /-- the client left -/
  | disconnected

/-- A response. -/
structure Response where
  status : Nat
  contentType? : Option String := none
  /-- the methods that a resource has -/
  allow? : Option String := none
  frames : List String := []
  ending : Ending := .complete

namespace Response

/-- A status, and nothing more. -/
def bare (status : Nat) : Response := { status }

/-- A JSON text. -/
def json (status : Nat) (text : String) : Response :=
  { status, contentType? := some "application/json", frames := [text] }

/-- A plain text. -/
def plain (status : Nat) (text : String) : Response :=
  { status, contentType? := some "text/plain; charset=utf-8", frames := [text] }

/-- A stream of JSON texts. -/
def stream (frames : List String) (ending : Ending) : Response :=
  { status := 200, contentType? := some "application/json", frames, ending }

/-- An error, as the client is told about it. -/
def ofError (e : ServiceError) : Response := json e.status e.body

@[simp] theorem stream_status (frames : List String) (ending : Ending) :
    (stream frames ending).status = 200 := rfl

@[simp] theorem stream_contentType? (frames : List String) (ending : Ending) :
    (stream frames ending).contentType? = some "application/json" := rfl

@[simp] theorem stream_frames (frames : List String) (ending : Ending) :
    (stream frames ending).frames = frames := rfl

@[simp] theorem stream_ending (frames : List String) (ending : Ending) :
    (stream frames ending).ending = ending := rfl

@[simp] theorem ofError_status (e : ServiceError) : (ofError e).status = e.status := rfl

@[simp] theorem ofError_contentType? (e : ServiceError) :
    (ofError e).contentType? = some "application/json" := rfl

@[simp] theorem ofError_frames (e : ServiceError) : (ofError e).frames = [e.body] := rfl

@[simp] theorem ofError_ending (e : ServiceError) : (ofError e).ending = .complete := rfl

/-- What is left of a response without its body. -/
def headOnly (r : Response) : Response := { r with frames := [] }

/-- What a client sees of a response that reads so many frames and leaves. -/
def readUpTo (r : Response) (count : Nat) : Response :=
  if count ≤ r.frames.length then
    { r with frames := r.frames.take count, ending := .disconnected }
  else r

end Response

end CompletionService.Http
