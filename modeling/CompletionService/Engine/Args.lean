import CompletionService.Json.Merge
import CompletionService.Json.Shape

/-!
# Engine arguments

What an inference engine is built from: its defaults, its JSON form and its shape.
-/

namespace CompletionService

open Number Json

/-- The arguments that an engine is built from. -/
structure EngineArgs where
  model : String
  tokenizer : Option String
  revision : Option String
  dtype : String
  seed : UInt64
  maxModelLen : Option UInt64
  tensorParallelSize : UInt64
  gpuMemoryUtilization : Binary binary64
  maxNumSeqs : UInt64
  enableLora : Bool
  maxLoras : UInt64
  maxLoraRank : UInt64
  trustRemoteCode : Bool
  disableLogRequests : Bool
  deriving DecidableEq

namespace EngineArgs

/-- The arguments for a model of which nothing else is said. -/
def ofModel (model : String) : EngineArgs where
  model
  tokenizer := none
  revision := none
  dtype := "auto"
  seed := 0
  maxModelLen := none
  tensorParallelSize := 1
  gpuMemoryUtilization := .ofDecimal _ false 9 (-1)
  maxNumSeqs := 256
  enableLora := false
  maxLoras := 1
  maxLoraRank := 16
  trustRemoteCode := false
  disableLogRequests := false

/-! ## JSON form -/

/-- The value of every field. -/
def toMembers (a : EngineArgs) : Members := [
  ("model", .string a.model),
  ("tokenizer", ofOption .string a.tokenizer),
  ("revision", ofOption .string a.revision),
  ("dtype", .string a.dtype),
  ("seed", ofUInt64 a.seed),
  ("max_model_len", ofOption ofUInt64 a.maxModelLen),
  ("tensor_parallel_size", ofUInt64 a.tensorParallelSize),
  ("gpu_memory_utilization", ofDouble a.gpuMemoryUtilization),
  ("max_num_seqs", ofUInt64 a.maxNumSeqs),
  ("enable_lora", .boolean a.enableLora),
  ("max_loras", ofUInt64 a.maxLoras),
  ("max_lora_rank", ofUInt64 a.maxLoraRank),
  ("trust_remote_code", .boolean a.trustRemoteCode),
  ("disable_log_requests", .boolean a.disableLogRequests)]

/-- The arguments with the given fields, which are decoded by ascending name. -/
def ofMembers (fields : Members) : Except Mismatch EngineArgs := do
  let disableLogRequests ← Decode.field fields "disable_log_requests" Decode.boolean
  let dtype ← Decode.field fields "dtype" Decode.string
  let enableLora ← Decode.field fields "enable_lora" Decode.boolean
  let gpuMemoryUtilization ← Decode.field fields "gpu_memory_utilization" Decode.real64
  let maxLoraRank ← Decode.field fields "max_lora_rank" Decode.size
  let maxLoras ← Decode.field fields "max_loras" Decode.size
  let maxModelLen ← Decode.optionalField fields "max_model_len" Decode.size
  let maxNumSeqs ← Decode.field fields "max_num_seqs" Decode.size
  let model ← Decode.field fields "model" Decode.string
  let revision ← Decode.optionalField fields "revision" Decode.string
  let seed ← Decode.field fields "seed" Decode.natural64
  let tensorParallelSize ← Decode.field fields "tensor_parallel_size" Decode.size
  let tokenizer ← Decode.optionalField fields "tokenizer" Decode.string
  let trustRemoteCode ← Decode.field fields "trust_remote_code" Decode.boolean
  return {
    model := model
    tokenizer, revision, dtype, seed, maxModelLen, tensorParallelSize, gpuMemoryUtilization
    maxNumSeqs, enableLora, maxLoras, maxLoraRank, trustRemoteCode, disableLogRequests }

instance : JsonForm EngineArgs where
  toJson a := .object a.toMembers
  ofJson j := do ofMembers (← Decode.members (.record "EngineArgs") j)

/-! ## JSON text -/

/-- The shape of a text of the arguments. -/
def shape : Shape :=
  let size := Shape.scalar Decode.size
  let string := Shape.scalar Decode.string
  let boolean := Shape.scalar Decode.boolean
  .record "EngineArgs" [
    { name := "model", shape := string },
    { name := "tokenizer", shape := .nullable string, absent := .null },
    { name := "revision", shape := .nullable string, absent := .null },
    { name := "dtype", shape := string },
    { name := "seed", shape := .scalar Decode.natural64 },
    { name := "max_model_len", shape := .nullable size, absent := .null },
    { name := "tensor_parallel_size", shape := size },
    { name := "gpu_memory_utilization", shape := .scalar Decode.real64 },
    { name := "max_num_seqs", shape := size },
    { name := "enable_lora", shape := boolean },
    { name := "max_loras", shape := size },
    { name := "max_lora_rank", shape := size },
    { name := "trust_remote_code", shape := boolean },
    { name := "disable_log_requests", shape := boolean }]

/-- The text of the arguments. -/
def text (a : EngineArgs) : String := (Json.object a.toMembers).text

end EngineArgs

end CompletionService
