import CompletionService.Json.Reader
import CompletionService.ServiceError

/-!
# Request payloads

A request comes as octets or as an object that the host has decoded already, in one of two places.
`decodePayload` gives the object that it stands for.
-/

namespace CompletionService

/-- The content of a request. -/
inductive Payload
  | bytes (octets : ByteArray)
  | json (members : Members)

/-- A payload without content. -/
def Payload.isEmpty : Payload → Bool
  | .bytes octets => octets.isEmpty
  | .json members => members.isEmpty

/-- One request of a batch. -/
structure RequestItem where
  data : Option Payload := none
  body : Option Payload := none

/-- The payload that counts: `data`, unless it is missing or empty. -/
def RequestItem.payload? (item : RequestItem) : Option Payload :=
  match item.data.filter (!·.isEmpty) with
  | some payload => some payload
  | none => item.body

/-- A request with the given body. -/
def RequestItem.ofBody (octets : ByteArray) : RequestItem := { body := some (.bytes octets) }

/-- The object that a text of a request holds. -/
def decodeText (text : String) : Except ServiceError Members :=
  match Json.parse text with
  | .ok (.object members) => .ok members
  | .ok _ => .error (.badRequest "request body must be a JSON object")
  | .error e => .error (.badRequest ("request body is not valid JSON: " ++ e.message))

/-- The object that a request holds. -/
def decodePayload (item : RequestItem) : Except ServiceError Members :=
  match item.payload? with
  | none => .error (.badRequest "request carries neither data nor body")
  | some (.json members) => .ok members
  | some (.bytes octets) =>
    match Text.decodeUtf8 octets with
    | .ok text => decodeText text
    | .error fault => .error (.decode fault)

end CompletionService
