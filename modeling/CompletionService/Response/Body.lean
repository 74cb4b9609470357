import CompletionService.Engine.Output
import CompletionService.Json.Shape

/-!
# Response bodies

The two bodies that a request can be answered with, a chunk of a stream and the envelope of a whole
completion, with the parts of the latter. Each has a JSON text, with the fields in the order of the
structure, and a shape under which that text is read.
-/

namespace CompletionService

open Json

/-! ## Chunks -/

/-- The body of one streamed response: new text, and the last token so far. -/
structure StreamChunk where
  text : String
  token : Option TokenId
  deriving DecidableEq

namespace StreamChunk

/-- A chunk as a JSON object. -/
def toJson (c : StreamChunk) : Json :=
  .object [("text", .string c.text), ("tokens", ofOption ofUInt32 c.token)]

/-- Reads a chunk from a JSON value. -/
def ofJson (j : Json) : Except Mismatch StreamChunk := do
  let fields ← Decode.members (.record "StreamChunk") j
  return {
    text := ← Decode.field fields "text" Decode.string
    token := ← Decode.optionalField fields "tokens" Decode.natural32 }

/-- The shape of the JSON text of a chunk. -/
def shape : Shape := .record "StreamChunk" [
  { name := "text", shape := .scalar Decode.string },
  { name := "tokens", shape := .nullable (.scalar Decode.natural32), absent := .null }]

end StreamChunk

/-! ## Envelopes -/

/-- The use of tokens. It is not counted: every number stays zero. -/
structure Usage where
  promptTokens : UInt32 := 0
  totalTokens : UInt32 := 0
  completionTokens : UInt32 := 0
  deriving DecidableEq

namespace Usage

/-- The token counts as a JSON object. -/
def toJson (u : Usage) : Json := .object [
  ("prompt_tokens", ofUInt32 u.promptTokens),
  ("total_tokens", ofUInt32 u.totalTokens),
  ("completion_tokens", ofUInt32 u.completionTokens)]

/-- Reads the token counts from a JSON value. -/
def ofJson (j : Json) : Except Mismatch Usage := do
  let fields ← Decode.members (.record "UsageInfo") j
  return {
    promptTokens := ← Decode.field fields "prompt_tokens" Decode.natural32
    totalTokens := ← Decode.field fields "total_tokens" Decode.natural32
    completionTokens := ← Decode.field fields "completion_tokens" Decode.natural32 }

/-- The shape of the JSON text of the token counts. -/
def shape : Shape := .record "UsageInfo" [
  { name := "prompt_tokens", shape := .scalar Decode.natural32 },
  { name := "total_tokens", shape := .scalar Decode.natural32 },
  { name := "completion_tokens", shape := .scalar Decode.natural32 }]

end Usage

/-- One completion of an envelope. -/
structure Choice where
  index : UInt32 := 0
  text : String
  logprobs : Option Json := none
  finishReason : Option String

namespace Choice

/-- A choice as a JSON object. -/
def toJson (c : Choice) : Json := .object [
  ("index", ofUInt32 c.index),
  ("text", .string c.text),
  ("logprobs", ofOption id c.logprobs),
  ("finish_reason", ofOption .string c.finishReason)]

/-- Reads a choice from a JSON value. -/
def ofJson (j : Json) : Except Mismatch Choice := do
  let fields ← Decode.members (.record "CompletionChoice") j
  return {
    index := ← Decode.field fields "index" Decode.natural32
    text := ← Decode.field fields "text" Decode.string
    logprobs := ← Decode.optionalField fields "logprobs" .ok
    finishReason := ← Decode.optionalField fields "finish_reason" Decode.string }

/-- The shape of the JSON text of a choice. -/
def shape : Shape := .record "CompletionChoice" [
  { name := "index", shape := .scalar Decode.natural32 },
  { name := "text", shape := .scalar Decode.string },
  { name := "logprobs", shape := .nullable .any, absent := .null },
  { name := "finish_reason", shape := .nullable (.scalar Decode.string), absent := .null }]

end Choice

/-- The envelope of a whole completion. -/
structure Completion where
  id : String
  object : String := "text_completion"
  /-- when it was made, in seconds of Unix time -/
  created : Int64
  /-- always the same: models are not told apart here -/
  model : String := "model_name"
  choices : List Choice
  usage : Usage := {}

namespace Completion

/-- The envelope of one completion of an engine. -/
def ofOutput (requestId : String) (created : Int64) (output : CompletionOutput) : Completion where
  id := requestId
  created
  choices := [{ text := output.text, finishReason := output.finishReason }]

/-- An envelope as a JSON object. -/
def toJson (c : Completion) : Json := .object [
  ("id", .string c.id),
  ("object", .string c.object),
  ("created", .whole (.ofInt64 c.created)),
  ("model", .string c.model),
  ("choices", .array (c.choices.map Choice.toJson)),
  ("usage", c.usage.toJson)]

/-- Reads an envelope from a JSON value. -/
def ofJson (j : Json) : Except Mismatch Completion := do
  let fields ← Decode.members (.record "CompletionResponse") j
  return {
    id := ← Decode.field fields "id" Decode.string
    object := ← Decode.field fields "object" Decode.string
    created := ← Decode.field fields "created" Decode.integer64
    model := ← Decode.field fields "model" Decode.string
    choices := ← Decode.field fields "choices" (Decode.list Choice.ofJson)
    usage := ← Decode.field fields "usage" Usage.ofJson }

/-- The shape of the JSON text of an envelope. -/
def shape : Shape := .record "CompletionResponse" [
  { name := "id", shape := .scalar Decode.string },
  { name := "object", shape := .scalar Decode.string },
  { name := "created", shape := .scalar Decode.integer64 },
  { name := "model", shape := .scalar Decode.string },
  { name := "choices", shape := .list Choice.shape },
  { name := "usage", shape := Usage.shape }]

end Completion

end CompletionService
