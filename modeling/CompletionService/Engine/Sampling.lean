import CompletionService.Json.Merge
import CompletionService.Json.Shape

/-!
# Sampling parameters

The generation controls of one request: their defaults, their JSON form and its shape.
-/

namespace CompletionService

open Number Json

/-- The number of a token in the vocabulary of a model. -/
abbrev TokenId := UInt32

/-- Per-request generation controls. -/
structure SamplingParams where
  n : UInt64
  presencePenalty : Binary binary32
  frequencyPenalty : Binary binary32
  repetitionPenalty : Binary binary32
  temperature : Binary binary32
  topP : Binary binary32
  /-- `-1` considers all tokens -/
  topK : Int32
  minP : Binary binary32
  seed : Option UInt64
  /-- texts that end the generation when they appear -/
  stop : List String
  /-- tokens that end the generation -/
  stopTokenIds : List TokenId
  ignoreEos : Bool
  maxTokens : Option UInt64
  /-- nothing but the budget ends the generation before so many tokens -/
  minTokens : UInt64
  skipSpecialTokens : Bool
  deriving DecidableEq

namespace SamplingParams

/-- The controls of a request that sets none. -/
def default : SamplingParams where
  n := 1
  presencePenalty := .ofInt _ 0
  frequencyPenalty := .ofInt _ 0
  repetitionPenalty := .ofInt _ 1
  temperature := .ofInt _ 1
  topP := .ofInt _ 1
  topK := -1
  minP := .ofInt _ 0
  seed := none
  stop := []
  stopTokenIds := []
  ignoreEos := false
  maxTokens := some 16
  minTokens := 0
  skipSpecialTokens := true

/-! ## JSON form -/

/-- The value of every field. -/
def toMembers (p : SamplingParams) : Members := [
  ("n", ofUInt64 p.n),
  ("presence_penalty", ofSingle p.presencePenalty),
  ("frequency_penalty", ofSingle p.frequencyPenalty),
  ("repetition_penalty", ofSingle p.repetitionPenalty),
  ("temperature", ofSingle p.temperature),
  ("top_p", ofSingle p.topP),
  ("top_k", ofInt32 p.topK),
  ("min_p", ofSingle p.minP),
  ("seed", ofOption ofUInt64 p.seed),
  ("stop", ofStrings p.stop),
  ("stop_token_ids", .array (p.stopTokenIds.map ofUInt32)),
  ("ignore_eos", .boolean p.ignoreEos),
  ("max_tokens", ofOption ofUInt64 p.maxTokens),
  ("min_tokens", ofUInt64 p.minTokens),
  ("skip_special_tokens", .boolean p.skipSpecialTokens)]

/-- The controls with the given fields, which are decoded by ascending name. -/
def ofMembers (fields : Members) : Except Mismatch SamplingParams := do
  let frequencyPenalty ← Decode.field fields "frequency_penalty" Decode.real32
  let ignoreEos ← Decode.field fields "ignore_eos" Decode.boolean
  let maxTokens ← Decode.optionalField fields "max_tokens" Decode.size
  let minP ← Decode.field fields "min_p" Decode.real32
  let minTokens ← Decode.field fields "min_tokens" Decode.size
  let n ← Decode.field fields "n" Decode.size
  let presencePenalty ← Decode.field fields "presence_penalty" Decode.real32
  let repetitionPenalty ← Decode.field fields "repetition_penalty" Decode.real32
  let seed ← Decode.optionalField fields "seed" Decode.natural64
  let skipSpecialTokens ← Decode.field fields "skip_special_tokens" Decode.boolean
  let stop ← Decode.field fields "stop" Decode.oneOrMany
  let stopTokenIds ← Decode.field fields "stop_token_ids" (Decode.list Decode.natural32)
  let temperature ← Decode.field fields "temperature" Decode.real32
  let topK ← Decode.field fields "top_k" Decode.integer32
  let topP ← Decode.field fields "top_p" Decode.real32
  return {
    n := n
    presencePenalty, frequencyPenalty, repetitionPenalty, temperature, topP, topK, minP
    seed, stop, stopTokenIds, ignoreEos, maxTokens, minTokens, skipSpecialTokens }

instance : JsonForm SamplingParams where
  toJson p := .object p.toMembers
  ofJson j := do ofMembers (← Decode.members (.record "SamplingParams") j)

/-! ## JSON text -/

/-- The shape of a text of the controls. -/
def shape : Shape :=
  let size := Shape.scalar Decode.size
  let real := Shape.scalar Decode.real32
  let boolean := Shape.scalar Decode.boolean
  .record "SamplingParams" [
    { name := "n", shape := size },
    { name := "presence_penalty", shape := real },
    { name := "frequency_penalty", shape := real },
    { name := "repetition_penalty", shape := real },
    { name := "temperature", shape := real },
    { name := "top_p", shape := real },
    { name := "top_k", shape := .scalar Decode.integer32 },
    { name := "min_p", shape := real },
    { name := "seed", shape := .nullable (.scalar Decode.natural64), absent := .null },
    { name := "stop", shape := .any, accept := fun j => do let _ ← Decode.oneOrMany j },
    { name := "stop_token_ids", shape := .list (.scalar Decode.natural32) },
    { name := "ignore_eos", shape := boolean },
    { name := "max_tokens", shape := .nullable size, absent := .null },
    { name := "min_tokens", shape := size },
    { name := "skip_special_tokens", shape := boolean }]

/-- The text of the controls. Reals have the digits of single precision. -/
def text (p : SamplingParams) : String :=
  let value (j : Json) : List Char := j.write
  String.ofList (writeMembers [
    ("n", value (ofUInt64 p.n)),
    ("presence_penalty", writeBinary p.presencePenalty),
    ("frequency_penalty", writeBinary p.frequencyPenalty),
    ("repetition_penalty", writeBinary p.repetitionPenalty),
    ("temperature", writeBinary p.temperature),
    ("top_p", writeBinary p.topP),
    ("top_k", value (ofInt32 p.topK)),
    ("min_p", writeBinary p.minP),
    ("seed", value (ofOption ofUInt64 p.seed)),
    ("stop", value (ofStrings p.stop)),
    ("stop_token_ids", value (.array (p.stopTokenIds.map ofUInt32))),
    ("ignore_eos", value (.boolean p.ignoreEos)),
    ("max_tokens", value (ofOption ofUInt64 p.maxTokens)),
    ("min_tokens", value (ofUInt64 p.minTokens)),
    ("skip_special_tokens", value (.boolean p.skipSpecialTokens))])

end SamplingParams

end CompletionService
