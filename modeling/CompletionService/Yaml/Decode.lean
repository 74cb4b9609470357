import CompletionService.Yaml.Document
import CompletionService.Yaml.Meaning

/-!
# Typed values from YAML

Functions that read nodes as values of a type. A mismatch tells where it was met: the path of keys
and indices, and the mark of the node. Aliases are followed, though not without limit: a document
may not be read more than a hundred times its size through them, and containers may be nested up to
a depth.
-/

namespace CompletionService.Yaml

/-! ## Paths -/

/-- A step from a node to one inside it. -/
inductive Segment
  | key (name : String)
  | item (index : Nat)
  /-- the value of a key that has no name -/
  | unnamed
  deriving DecidableEq

/-- The way to a node, innermost step first. -/
abbrev Trail := List Segment

/-- The wording of a way. -/
def Trail.words : Trail → String
  | [] => "."
  | .item index :: outer => s!"{Trail.words outer}[{index}]"
  | .key name :: outer => (if outer.isEmpty then "" else Trail.words outer ++ ".") ++ name
  | .unnamed :: outer => (if outer.isEmpty then "" else Trail.words outer ++ ".") ++ "?"

/-! ## Refusals -/

/-- Why a text was not read as a value. -/
inductive Refusal
  /-- the text is no YAML -/
  | fault (f : Fault)
  /-- a node is not of the wanted type; its place is not known at first -/
  | mismatch (m : Mismatch) (place? : Option (Trail × Mark))
  /-- the containers at a mark are nested too deep -/
  | tooDeep (mark : Mark)
  | tooManyAliases
  /-- the text ends where a value is wanted -/
  | ended
  | severalDocuments

/-- The wording of a refusal. -/
def Refusal.message : Refusal → String
  | .fault f => f.message
  | .mismatch m none => m.message
  | .mismatch m (some (trail, mark)) =>
    (if trail.words = "." then "" else trail.words ++ ": ") ++ m.message ++ mark.suffix
  | .tooDeep mark => "recursion limit exceeded" ++ mark.suffix
  | .tooManyAliases => "repetition limit exceeded"
  | .ended => "EOF while parsing a value"
  | .severalDocuments =>
    "deserializing from YAML containing more than one document is not supported"

/-- Reading nodes of a document, with the number of aliases that were followed. -/
abbrev Reading := StateT Nat (Except Refusal)

namespace Reading

variable {α : Type}

/-- The value is not of the wanted type. -/
def refuse (m : Mismatch) : Reading α := throw (.mismatch m none)

/-- A mismatch that has no place yet was met here. -/
def located (trail : Trail) (mark : Mark) (read : Reading α) : Reading α :=
  tryCatch read fun
    | .mismatch m none => throw (.mismatch m (some (trail, mark)))
    | refusal => throw refusal

/-- The node that a node stands for, which is itself unless it is an alias. -/
def resolve (doc : Document) : Node → Reading Node
  | .alias _ anchor => do
    modify (· + 1)
    if doc.size * 100 < (← get) then throw .tooManyAliases
    match doc.anchored.lookup anchor with
    | some node => return node
    | none => throw .ended
  | .broken =>
    match doc.fault? with
    | some fault => throw (.fault fault)
    | none => throw .ended
  | node => return node

/-! ## Ignored nodes -/

mutual

/-- A node without a broken one inside. -/
def isSound : Node → Bool
  | .broken => false
  | .sequence _ _ items => areSound items
  | .mapping _ _ entries => areEntriesSound entries
  | _ => true

/-- Nodes without a broken one. -/
def areSound : List Node → Bool
  | [] => true
  | node :: rest => isSound node && areSound rest

/-- Entries without a broken node. -/
def areEntriesSound : List (Node × Node) → Bool
  | [] => true
  | (key, value) :: rest => isSound key && isSound value && areEntriesSound rest

end

/-- Passes over a node, which only has to be there. -/
def ignore (doc : Document) (node : Node) : Reading Unit := do
  if !isSound node then
    let _ ← resolve doc .broken

/-! ## Scalars -/

/-- The mismatch of a node of another type; a scalar may already fail as what its tag says. -/
def wrongType (node : Node) (wanted : Wanted) : Mismatch :=
  match node with
  | .sequence .. => .invalidType .sequence wanted
  | .mapping .. => .invalidType .map wanted
  | .scalar _ tag? text plain =>
    match Meaning.ofScalar tag? text plain with
    | .ok meaning => .invalidType meaning.found wanted
    | .error mismatch => mismatch
  | .alias .. | .broken => .invalidType (.described "alias") wanted

/-- The mark of a node. -/
def markOf : Node → Mark
  | .scalar mark .. | .sequence mark .. | .mapping mark .. | .alias mark _ => mark
  | .broken => {}

/-- A text: any scalar, as it is written. -/
def string (doc : Document) (wanted : Wanted) (trail : Trail) (node : Node) : Reading String := do
  match ← resolve doc node with
  | .scalar _ _ text _ => return text
  | node => located trail (markOf node) (refuse (wrongType node wanted))

/-- A scalar that stands for nothing, or a text. -/
def optionalString (doc : Document) (trail : Trail) (node : Node) : Reading (Option String) := do
  match ← resolve doc node with
  | .scalar mark tag? text plain =>
    let present : Reading (Option String) := do
      return some (← string doc .string trail (.scalar mark tag? text plain))
    if !plain then present
    else match tag? with
      | none => if text.isEmpty || isNull text then return none else present
      | some tag =>
        if tag != Tag.core "null" then present
        else if isNull text then return none
        else refuse (.invalidValue (.string text) (.described "null"))
  | node => some <$> string doc .string trail node

/-! ## Containers -/

/-- Reads what is inside a mapping: the depth that is left, and the entries. An empty node counts as
an empty mapping. -/
def mapping (doc : Document) (wanted : Wanted) (trail : Trail) (depth : Nat) (node : Node)
    (read : (depth : Nat) → List (Node × Node) → Reading α) : Reading α := do
  let node ← resolve doc node
  located trail (markOf node) <|
    match node, depth with
    | .mapping mark _ _, 0 => throw (.tooDeep mark)
    | .mapping _ _ entries, depth + 1 => read depth entries
    | .scalar _ tag? text plain, depth =>
      if text.isEmpty && plain then read depth []
      else refuse (wrongType (.scalar {} tag? text plain) wanted)
    | node, _ => refuse (wrongType node wanted)

/-- The step to the value of a key. -/
def step : Node → Segment
  | .scalar _ _ text _ => .key text
  | _ => .unnamed

/-- The entries of a mapping with texts as keys, in their order. -/
def entriesOf (doc : Document) (trail : Trail) (firstWanted : Wanted)
    (value : Trail → Node → Reading α) : (first : Bool) → List (Node × Node) →
      Reading (List (String × α))
  | _, [] => return []
  | first, (keyNode, valueNode) :: rest => do
    let key ← string doc (if first then firstWanted else .string) trail keyNode
    let v ← value (step keyNode :: trail) valueNode
    return (key, v) :: (← entriesOf doc trail firstWanted value false rest)

/-- Any value. A node with a tag of its own is none. -/
def any (doc : Document) : (depth : Nat) → Trail → Node → Reading Json
  | depth, trail, node => do
    let node ← resolve doc node
    located trail (markOf node) <|
      match node, depth with
      | .scalar _ tag? text plain, _ => do
        refuseLocal tag?
        match (Meaning.ofScalar tag? text plain).bind Meaning.toJson with
        | .ok j => return j
        | .error mismatch => refuse mismatch
      | .sequence mark tag? _, 0 => do
        refuseLocal tag?
        throw (.tooDeep mark)
      | .mapping mark tag? _, 0 => do
        refuseLocal tag?
        throw (.tooDeep mark)
      | .sequence _ tag? items, depth + 1 => do
        refuseLocal tag?
        let items ← items.zipIdx.mapM fun (item, i) => any doc depth (.item i :: trail) item
        return .array items
      | .mapping _ tag? entries, depth + 1 => do
        refuseLocal tag?
        let entries ← entriesOf doc trail (.described "a string key") (any doc depth) true entries
        return .object (Members.ofList entries)
      | _, _ => throw .ended
where
  refuseLocal (tag? : Option Tag) : Reading Unit :=
    if tag?.any Tag.isNamed then
      refuse (.invalidType (.described "enum") (.described "any valid JSON value"))
    else return ()

/-- The entries of a mapping. -/
def map (doc : Document) (trail : Trail) (depth : Nat) (node : Node)
    (value : (depth : Nat) → Trail → Node → Reading α) : Reading (List (String × α)) :=
  mapping doc .map trail depth node fun depth entries =>
    entriesOf doc trail .string (value depth) true entries

/-- The entries of a record that are its fields, as what `field` makes of them; there is none twice.
Other entries are passed over. -/
def fieldsFrom (doc : Document) (trail : Trail)
    (field : (name : String) → Option (Trail → Node → Reading α)) :
    (seen : List (String × α)) → List (Node × Node) → Reading (List (String × α))
  | seen, [] => return seen
  | seen, (keyNode, valueNode) :: rest => do
    let key ← string doc (.described "field identifier") trail keyNode
    match field key with
    | none => do
      ignore doc valueNode
      fieldsFrom doc trail field seen rest
    | some read => do
      if (seen.lookup key).isSome then refuse (.duplicateField key)
      let v ← read (step keyNode :: trail) valueNode
      fieldsFrom doc trail field ((key, v) :: seen) rest

/-- The fields of a record that are there. -/
def fields (doc : Document) (name : String) (trail : Trail) (depth : Nat) (node : Node)
    (field : (depth : Nat) → (name : String) → Option (Trail → Node → Reading α)) :
    Reading (List (String × α)) :=
  mapping doc (.record name) trail depth node fun depth entries =>
    fieldsFrom doc trail (field depth) [] entries

end Reading

/-- How deep containers may be nested. -/
def depthLimit : Nat := 128

/-- A text as a value: what `read` makes of the node that holds all others, or `empty` if there is
none. After the value nothing else may come. -/
def parseAs {α : Type} (text : String) (empty : α)
    (read : Document → (depth : Nat) → Node → Reading α) : Except Refusal α := do
  let doc := Document.ofText text
  let value ← match doc.root? with
    | none => .ok empty
    | some root => (read doc depthLimit root).run' 0
  match doc.fault? with
  | some fault => .error (.fault fault)
  | none => if doc.more then .error .severalDocuments else .ok value

end CompletionService.Yaml
