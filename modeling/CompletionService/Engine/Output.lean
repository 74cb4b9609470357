import CompletionService.Adapter
import CompletionService.Engine.Sampling

/-!
# What engines are asked and what they answer

An engine is asked once per request, with a `Call`, and answers with an `Outcome`: a refusal, or a
list of events and failures in the order in which they can be taken. Which outcome it is may depend
on the calls before (`Engine`).
-/

namespace CompletionService

/-- One completion of an event. Text and tokens are cumulative. -/
structure CompletionOutput where
  index : UInt64 := 0
  text : String := ""
  tokenIds : List TokenId := []
  finishReason : Option String := none
  deriving DecidableEq

/-- One event of a generation. -/
structure RequestOutput where
  requestId : String
  prompt : String
  outputs : List CompletionOutput
  finished : Bool := false
  deriving DecidableEq

/-- The first completion of an event, which every event should have. -/
def RequestOutput.firstOutput (event : RequestOutput) : Except ServiceError CompletionOutput :=
  match event.outputs with
  | output :: _ => .ok output
  | [] => .error (.inference s!"engine event for {event.requestId} carries no completion")

/-- What an engine is asked. -/
structure Call where
  prompt : String
  params : SamplingParams
  requestId : String
  lora : Option LoraRequest
  deriving DecidableEq

/-- What an engine yields: an event, or a failure. -/
abbrev Item := Except ServiceError RequestOutput

/-- The answer of an engine. -/
inductive Outcome
  /-- generation does not start -/
  | refused (error : ServiceError)
  | stream (items : List Item)

/-- An engine: its answer to a call after the calls before it, oldest first. -/
abbrev Engine := (before : List Call) → Call → Outcome

end CompletionService
