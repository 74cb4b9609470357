import CompletionService.Json.Fault
import CompletionService.Text.Utf8

/-!
# Service errors

Everything that can go wrong with a request or at startup, with its wording, the HTTP status that
stands for it, and the body that tells a client.
-/

namespace CompletionService

/-- Why a request, or the start of the service, failed. -/
inductive ServiceError
  /-- a condition that the caller has to meet does not hold -/
  | precondition (reason : String)
  | badRequest (reason : String)
  /-- the request body is no text -/
  | decode (fault : Text.Malformed)
  | modelNotFound (model : String)
  | config (reason : String)
  | tokenizer (reason : String)
  /-- the engine failed -/
  | inference (reason : String)
  /-- nobody takes the responses to a request any more -/
  | cancelled (requestId : String)
  | serialization (error : Json.Error)
  | io (reason : String)
  | other (reason : String)

namespace ServiceError

/-- The wording of an error. -/
def message : ServiceError → String
  | .precondition reason => "precondition failed: " ++ reason
  | .badRequest reason => "invalid request: " ++ reason
  | .decode fault => "request body is not valid utf-8: " ++ fault.message
  | .modelNotFound model => "model not found: " ++ model
  | .config reason => "configuration error: " ++ reason
  | .tokenizer reason => "tokenizer error: " ++ reason
  | .inference reason => "model execution failed: " ++ reason
  | .cancelled requestId => "client stopped listening for request " ++ requestId
  | .serialization error => "serialization error: " ++ error.message
  | .io reason => "io error: " ++ reason
  | .other reason => "other: " ++ reason

/-- The HTTP status of an error. -/
def status : ServiceError → Nat
  | .precondition _ | .badRequest _ | .decode _ => 400
  | .modelNotFound _ => 404
  | .cancelled _ => 503
  | .config _ | .tokenizer _ | .inference _ | .serialization _ | .io _ | .other _ => 500

/-- What a client is told. -/
def body (e : ServiceError) : String := (Json.object [("error", .string e.message)]).text

end ServiceError

end CompletionService
