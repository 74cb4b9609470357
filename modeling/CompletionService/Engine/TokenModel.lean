import CompletionService.Engine.Output
import CompletionService.Engine.Stopping

/-!
# Generation token by token

A `TokenModel` is an engine whose tokens are fixed. Its run pushes one token at a time, evaluates
the step, and yields an event with the text that may be shown and all tokens so far, until a step
ends the generation or the tokens run out.
-/

namespace CompletionService

open Text

/-- A model that produces fixed tokens, each with its piece of text. -/
structure TokenModel where
  tokens : List (TokenId × String)
  eos : Option TokenId := none
  maxModelLen : Option UInt64 := none
  promptTokens : UInt64 := 1
  /-- the name under which the model refuses adapters, if it does -/
  refusesAdapters : Option String := none

namespace TokenModel

/-- The event of a step. -/
def event (call : Call) (text : String) (tokenIds : List TokenId) (finish? : Option FinishReason) :
    RequestOutput where
  requestId := call.requestId
  prompt := call.prompt
  outputs := [{ text, tokenIds, finishReason := finish?.map FinishReason.name }]
  finished := finish?.isSome

/-- The text up to an offset. -/
def shown (text : String) (visible : Nat) : String := String.ofList (takeBytes visible text.toList)

/-- The events of the tokens that come after `generated`, whose text is `text` and of which
`visible` bytes were shown. -/
def eventsFrom (call : Call) (eos : Option TokenId) (budget : Nat) :
    (generated : List TokenId) → (text : String) → (visible : Nat) →
      List (TokenId × String) → List RequestOutput
  | _, _, _, [] => []
  | generated, text, visible, (token, piece) :: rest =>
    let generated := generated ++ [token]
    let text := text ++ piece
    let step := evaluateStep call.params eos generated text budget visible
    let first := event call (shown text step.visible) generated step.finish?
    match step.finish? with
    | some _ => [first]
    | none => first :: eventsFrom call eos budget generated text step.visible rest

/-- The events of a generation. Without any budget there is one, without a token. -/
def events (model : TokenModel) (call : Call) : List RequestOutput :=
  let budget := tokenBudget call.params model.maxModelLen model.promptTokens
  if budget = 0 then [event call "" [] (some .length)]
  else eventsFrom call model.eos budget [] "" 0 model.tokens

/-- The answer to a call. -/
def generate (model : TokenModel) (call : Call) : Outcome :=
  let refusal := match model.refusesAdapters with
    | some backend => ensureNoAdapter call.lora backend
    | none => .ok ()
  match refusal with
  | .error e => .refused e
  | .ok _ => .stream ((model.events call).map .ok)

end TokenModel

end CompletionService
