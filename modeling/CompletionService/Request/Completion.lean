import CompletionService.Adapter
import CompletionService.Engine.Sampling

/-!
# Completion requests

The object of a request in the terms of the engine: a prompt, whether responses are streamed, the
sampling parameters and an adapter. The checks come in this order, and the adapter table changes
only when all hold.
-/

namespace CompletionService

/-- A request in the terms of the engine. -/
structure CompletionRequest where
  prompt : String
  stream : Bool
  params : SamplingParams
  lora : Option LoraRequest
  deriving DecidableEq

namespace CompletionRequest

/-- The prompt of a request. -/
def prompt? (request : Members) : Except ServiceError String :=
  match request.get? "prompt" with
  | some (.string prompt) => .ok prompt
  | _ => .error (.badRequest "missing string field 'prompt'")

/-- Whether responses are streamed; they are not, unless the request says so. -/
def stream? (request : Members) : Except ServiceError Bool :=
  match request.get? "stream" with
  | none | some .null => .ok false
  | some (.boolean stream) => .ok stream
  | some other => .error (.badRequest ("'stream' must be a boolean, got " ++ other.text))

/-- The sampling parameters: the fields of the request replace their defaults. -/
def params? (request : Members) : Except ServiceError SamplingParams :=
  match merge SamplingParams.default request with
  | .ok params => .ok params
  | .error mismatch => .error (.badRequest ("invalid sampling parameters: " ++ mismatch.message))

/-- The name of the adapter; empty if none is selected. -/
def adapter? (request : Members) : Except ServiceError String :=
  match request.get? "lora_adapter" with
  | none | some .null => .ok ""
  | some (.string name) => .ok name
  | some other => .error (.badRequest ("'lora_adapter' must be a string, got " ++ other.text))

/-- The request that an object stands for, and the adapters afterwards. -/
def prepare (request : Members) (adapters : AdapterTable) :
    Except ServiceError CompletionRequest × AdapterTable :=
  let fields : Except ServiceError (String × Bool × SamplingParams × String) := do
    let prompt ← prompt? request
    let stream ← stream? request
    let params ← params? request
    return (prompt, stream, params, ← adapter? request)
  match fields with
  | .error e => (.error e, adapters)
  | .ok (prompt, stream, params, name) =>
    match adapters.resolve name with
    | (.error e, adapters) => (.error e, adapters)
    | (.ok lora, adapters) => (.ok ⟨prompt, stream, params, lora⟩, adapters)

end CompletionRequest

end CompletionService
