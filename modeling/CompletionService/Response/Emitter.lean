import CompletionService.Response.Body
import CompletionService.Text.Offset

/-!
# From events to responses

An `Emitter` turns the events of one request into responses. When responses are streamed, every
event but a final one yields the text that is new since the chunk before, and the rest of the last
event becomes the final response. Otherwise only the last event counts, as an envelope.
-/

namespace CompletionService

open Text

/-- The responses to one request, so far. -/
structure Emitter where
  stream : Bool
  /-- the length of the text that has been emitted, in bytes -/
  emitted : Nat := 0
  last : Option RequestOutput := none

namespace Emitter

/-- The text from an offset on; empty past its end and inside a character. -/
def textFrom (offset : Nat) (text : String) : String :=
  String.ofList ((dropBytes? offset text.toList).getD [])

/-- The chunk with what is new in an output, and the emitter afterwards. -/
def advance (e : Emitter) (output : CompletionOutput) : StreamChunk × Emitter :=
  (⟨textFrom e.emitted output.text, output.tokenIds.getLast?⟩,
    { e with emitted := max e.emitted (byteLength output.text.toList) })

/-- Takes an event: the chunk that it yields, if any, and the emitter afterwards. -/
def observe (e : Emitter) (event : RequestOutput) :
    Except ServiceError (Option StreamChunk × Emitter) :=
  if e.stream && !event.finished then do
    let (chunk, e) := e.advance (← event.firstOutput)
    return (some chunk, { e with last := some event })
  else .ok (none, { e with last := some event })

/-- Takes an item of a generation: the chunk that it yields, if any, the emitter afterwards, and
whether the item is the last one that counts. A failure is passed on. -/
def receive (e : Emitter) : Item → Except ServiceError (Option StreamChunk × Emitter × Bool)
  | .error failure => .error failure
  | .ok event => do
    let (chunk?, e) ← e.observe event
    return (chunk?, e, event.finished)

/-- The final response, from the last event. -/
def finish (e : Emitter) (requestId : String) (created : Int64) : Except ServiceError String :=
  match e.last with
  | none => .error (.inference ("engine produced no output for " ++ requestId))
  | some event => do
    let output ← event.firstOutput
    -- the rest of a stream is a chunk like the others
    return if e.stream then (e.advance output).1.toJson.text
      else (Completion.ofOutput requestId created output).toJson.text

end Emitter

end CompletionService
