import CompletionService.Json.Shape
import CompletionService.ServiceError
import CompletionService.Storage.View
import CompletionService.Text.Unicode
import CompletionService.Yaml.Decode

/-!
# The file of a deployment

A deployment is described by a YAML file, of which only the section `handler` counts here: what the
engine is built from, where the model lies, and the adapters. Every part may be missing. The same
data in JSON has the form of `ModelConfig.shape`.
-/

namespace CompletionService

/-- The section for the handler. -/
structure HandlerConfig where
  /-- engine arguments, by name -/
  engineConfig : Members := []
  /-- where the model lies, inside the directory of models -/
  modelPath : Option String := none
  /-- adapter names and their places, inside the directory of models -/
  adapters : List (String × String) := []

/-- The description of a deployment. -/
structure ModelConfig where
  handler : HandlerConfig := {}

/-! ## JSON form -/

namespace HandlerConfig

/-- The names of adapters with their places. -/
def adaptersOfJson (j : Json) : Except Mismatch (List (String × String)) := do
  let members ← Decode.members .map j
  members.mapM fun (name, place) => do return (name, ← Decode.string place)

/-- The section with this JSON form. -/
def ofJson (j : Json) : Except Mismatch HandlerConfig := do
  let fields ← Decode.members (.record "HandlerConfig") j
  let field {α : Type} (name : String) (decode : Json → Except Mismatch α) (absent : α) :
      Except Mismatch α :=
    match fields.get? name with
    | some j => decode j
    | none => .ok absent
  return {
    engineConfig := ← field "vllm_engine_config" (Decode.members .map) []
    modelPath := ← Decode.optionalField fields "model_path" Decode.string
    adapters := ← field "adapters" adaptersOfJson [] }

/-- The shape of a text of the section. -/
def shape : Json.Shape := .record "HandlerConfig" [
  { name := "vllm_engine_config", shape := .map .any, absent := .default (.object []) },
  { name := "model_path", shape := .nullable (.scalar Decode.string), absent := .default .null },
  { name := "adapters", shape := .map (.scalar Decode.string), absent := .default (.object []) }]

/-- The section that a JSON text holds. -/
def ofText (text : String) : Except Json.Error HandlerConfig := Json.readAs shape ofJson text

end HandlerConfig

namespace ModelConfig

/-- The description with this JSON form. -/
def ofJson (j : Json) : Except Mismatch ModelConfig := do
  let fields ← Decode.members (.record "ModelConfig") j
  match fields.get? "handler" with
  | some j => return { handler := ← HandlerConfig.ofJson j }
  | none => return {}

/-- The shape of a text of the description. -/
def shape : Json.Shape := .record "ModelConfig" [
  { name := "handler", shape := HandlerConfig.shape, absent := .default (.object []) }]

/-- The description that a JSON text holds. -/
def ofText (text : String) : Except Json.Error ModelConfig := Json.readAs shape ofJson text

/-! ## YAML form -/

open Yaml

/-- The JSON form of a field of the section, from a node. -/
def handlerField (doc : Document) (depth : Nat) :
    (name : String) → Option (Trail → Node → Reading Json)
  | "vllm_engine_config" => some fun trail node => do
    let members ← Reading.map doc trail depth node (Reading.any doc)
    return .object (Members.ofList members)
  | "model_path" => some fun trail node => do
    return Json.ofOption .string (← Reading.optionalString doc trail node)
  | "adapters" => some fun trail node => do
    let members ← Reading.map doc trail depth node fun _ => Reading.string doc .string
    return .object (Members.ofList (members.map fun (name, place) => (name, .string place)))
  | _ => none

/-- The JSON form of a description, from the node that holds it. -/
def read (doc : Document) (depth : Nat) (node : Node) : Reading Json := do
  let fields ← Reading.fields doc "ModelConfig" [] depth node fun depth name =>
    if name = "handler" then
      some fun trail node => .object <$>
        Reading.fields doc "HandlerConfig" trail depth node (handlerField doc)
    else none
  return .object fields

/-- Nothing but blank characters. -/
def isBlankText (text : String) : Bool := text.toList.all Text.isSpace

/-- The description that a YAML text holds; a blank text holds the one where all is missing. -/
def ofYaml (text : String) : Except ServiceError ModelConfig :=
  if isBlankText text then .ok {}
  else
    let invalid (reason : String) : ServiceError := .config ("invalid model config: " ++ reason)
    match parseAs text (.object []) read with
    | .error refusal => .error (invalid refusal.message)
    | .ok j =>
      match ofJson j with
      | .ok config => .ok config
      | .error mismatch => .error (invalid mismatch.message)

/-- The description in a file. -/
def load (storage : Storage) (path : String) : Except ServiceError ModelConfig :=
  match storage.read path with
  | .error fault => .error (.config (s!"cannot read {path}: " ++ fault.message))
  | .ok text => ofYaml text

end ModelConfig

end CompletionService
