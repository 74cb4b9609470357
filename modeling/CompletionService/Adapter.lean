import CompletionService.Path
import CompletionService.ServiceError

/-!
# Adapters

The adapters that a deployment declares, and the numbers under which engines know them. An adapter
gets its number when it is first asked for: the numbers start at 1, follow the order of the first
requests, and stay.
-/

namespace CompletionService

/-- An adapter that is selected for one request. -/
structure LoraRequest where
  name : String
  id : UInt32
  path : String
  deriving DecidableEq

/-- The declared adapters, and the numbers that were given so far. -/
structure AdapterTable where
  modelDir : String
  /-- name and path, relative to the model directory -/
  paths : List (String × String)
  /-- name and number, in the order in which the numbers were given -/
  ids : List (String × UInt32) := []

namespace AdapterTable

/-- The declared names, ascending. -/
def names (t : AdapterTable) : List String :=
  (t.paths.map (·.1)).mergeSort fun a b => decide (a ≤ b)

/-- The path of an adapter that can be selected: one that is declared with a path. -/
def path? (t : AdapterTable) (name : String) : Option String :=
  (t.paths.lookup name).filter (· ≠ "")

/-- The number of an adapter. -/
def id? (t : AdapterTable) (name : String) : Option UInt32 := t.ids.lookup name

/-- The number that comes next, one more than were given. -/
def nextId (t : AdapterTable) : UInt32 := .ofNat t.ids.length + 1

/-- The number of an adapter, which is the next one unless it has one, and the table afterwards. -/
def number (t : AdapterTable) (name : String) : UInt32 × AdapterTable :=
  let next := t.nextId
  match t.id? name with
  | some id => (id, t)
  | none => (next, { t with ids := t.ids ++ [(name, next)] })

/-- The adapter that a name selects, and the table afterwards; the empty name selects none. -/
def resolve (t : AdapterTable) (name : String) :
    Except ServiceError (Option LoraRequest) × AdapterTable :=
  if name = "" then (.ok none, t)
  else match t.path? name with
    | none => (.error (.precondition (name ++ " misses adapter path")), t)
    | some path =>
      let (id, t) := t.number name
      (.ok (some ⟨name, id, Path.join t.modelDir path⟩), t)

end AdapterTable

/-- Fails when an adapter is selected, for a backend that cannot apply any. -/
def ensureNoAdapter (lora : Option LoraRequest) (backend : String) : Except ServiceError Unit :=
  match lora with
  | none => .ok ()
  | some lora => .error (.inference (s!"adapter {lora.name} (id {lora.id}) requested but the " ++
      s!"{backend} backend cannot apply adapters"))

end CompletionService
