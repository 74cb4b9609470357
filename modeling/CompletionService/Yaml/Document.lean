import CompletionService.Yaml.Lexer
import CompletionService.Yaml.Node

/-!
# Documents from tokens

A `Composer` builds the nodes of a document from tokens, in the order of the text. At the first
fault it takes no more tokens: what is open is closed behind a broken node, and the fault is kept.
-/

namespace CompletionService.Yaml

/-- The state of building nodes. -/
structure Composer where
  lexer : Lexer
  /-- what the tag handles stand for -/
  handles : List (String × Tag) := []
  /-- the number of nodes and of ends of collections so far -/
  size : Nat := 0
  /-- the number that every anchor has now -/
  names : List (String × Nat) := []
  /-- the place of the node with a number, the latest first -/
  places : List (Nat × Nat) := []
  /-- the anchored nodes that are complete, by place -/
  complete : List (Nat × Node) := []
  fault? : Option Fault := none

/-- A step of building nodes. -/
abbrev Compose := StateM Composer

namespace Compose

/-! ## Tokens and faults -/

/-- The next token; none after a fault. -/
def peek : Compose (Option Token) := fun c =>
  match c.fault? with
  | some _ => (none, c)
  | none =>
    match c.lexer.peek with
    | .ok (token, lexer) => (some token, { c with lexer })
    | .error fault => (none, { c with fault? := some fault })

/-- Removes the token that was looked at. -/
def take : Compose Unit := modify fun c => { c with lexer := c.lexer.take }

/-- Stops at a fault. -/
def stop (fault : Fault) : Compose Node := fun c => (.broken, { c with fault? := some fault })

/-- The next token is one of these; nothing is after a fault. -/
def nextIs (kinds : List TokenKind) : Compose Bool := return (← peek).any (kinds.contains ·.kind)

/-! ## Places and anchors -/

/-- Counts a node or the end of a collection; gives its place. -/
def count : Compose Nat := fun c => (c.size, { c with size := c.size + 1 })

/-- Counts a node that may have an anchor, which stands for it from here on. -/
def enter (anchor? : Option String) : Compose Nat := do
  let place ← count
  match anchor? with
  | none => return place
  | some name => fun c =>
    let number := c.names.length
    let names := (name, number) :: c.names.filter (·.1 != name)
    (place, { c with names, places := (number, place) :: c.places })

/-- Keeps a node that is complete, if it has an anchor. -/
def leave (anchor? : Option String) (place : Nat) (node : Node) : Compose Node := fun c =>
  match anchor? with
  | none => (node, c)
  | some _ => (node, { c with complete := (place, node) :: c.complete })

/-- An empty node. -/
def empty (mark : Mark) : Compose Node := do
  let _ ← count
  return .scalar mark none "" true

/-! ## Properties -/

/-- What stands before the content of a node. -/
structure Properties where
  anchor? : Option String := none
  /-- handle, suffix and mark of the tag -/
  tag? : Option (String × Tag × Mark) := none
  /-- the mark of the first property, and of the end of the last -/
  span? : Option (Mark × Mark) := none

/-- The properties with one more, if the token is one that is not there yet. -/
def Properties.add? (p : Properties) (token : Token) : Option Properties :=
  let span? := some ((p.span?.map (·.1)).getD token.start, token.stop)
  match token.kind, p.anchor?, p.tag? with
  | .anchor name, none, _ => some { p with anchor? := some name, span? }
  | .tag handle suffix, _, none =>
    some { p with tag? := some (handle, suffix, token.start), span? }
  | _, _, _ => none

/-- Takes the properties that come next: an anchor and a tag, in either order. -/
def properties : (limit : Nat) → Properties → Compose Properties
  | 0, p => return p
  | limit + 1, p => do
    match (← peek).bind p.add? with
    | none => return p
    | some p =>
      take
      properties limit p

/-- The tag, its handle replaced by what that stands for, or the fault that it stands for none. -/
def Properties.resolveTag (p : Properties) (handles : List (String × Tag)) (start : Mark) :
    Except Fault (Option Tag) :=
  match p.tag? with
  | none => .ok none
  | some ("", suffix, _) => .ok (some suffix)
  | some (handle, suffix, mark) =>
    match handles.lookup handle with
    | some expansion => .ok (some (expansion ++ suffix))
    | none => .error (.at .undefinedTagHandle mark (some (.parsingNode, start)))

/-! ## Nodes -/

/-- The node that an alias stands for, which must have come before. -/
def aliasNode (name : String) (mark : Mark) : Compose Node := do
  take
  match (← get).names.lookup name with
  | none => stop (.at .unknownAnchor mark)
  | some number =>
    let _ ← count
    return .alias mark number

mutual

/-- A node. Where `block` holds it may be a block collection; where `indentless` holds, also a block
sequence that is not indented. -/
def node : (steps : Nat) → (block indentless : Bool) → Compose Node
  | 0, _, _ => return .broken
  | steps + 1, block, indentless => do
    let some token ← peek | return .broken
    if let .alias name := token.kind then return ← aliasNode name token.start
    let props ← properties 2 {}
    let some token ← peek | return .broken
    let start := (props.span?.map (·.1)).getD token.start
    match props.resolveTag (← get).handles start with
    | .error fault => stop fault
    | .ok tag? => content steps block indentless props.anchor? tag? (props.span?) start token

/-- The content of a node, whose first token comes next. -/
def content : (steps : Nat) → (block indentless : Bool) → (anchor? : Option String) →
    (tag? : Option Tag) → (span? : Option (Mark × Mark)) → (start : Mark) → Token → Compose Node
  | 0, _, _, _, _, _, _, _ => return .broken
  | steps + 1, block, indentless, anchor?, tag?, span?, start, token => do
    let collection (read : Compose Node) : Compose Node := do
      let place ← enter anchor?
      leave anchor? place (← read)
    match token.kind, block, indentless with
    | .blockEntry, _, true => collection do
      return .sequence start tag? (← indentlessItems steps)
    | .scalar text style, _, _ => do
      take
      let place ← enter anchor?
      leave anchor? place (.scalar start tag? text (style == .plain))
    | .flowSequenceStart, _, _ => collection do
      take
      return .sequence start tag? (← flowItems steps token.start true)
    | .flowMappingStart, _, _ => collection do
      take
      return .mapping start tag? (← flowEntries steps token.start true)
    | .blockSequenceStart, true, _ => collection do
      take
      return .sequence start tag? (← blockItems steps token.start)
    | .blockMappingStart, true, _ => collection do
      take
      return .mapping start tag? (← blockEntries steps token.start)
    | _, _, _ =>
      if span?.isSome then do
        let place ← enter anchor?
        leave anchor? place (.scalar start tag? "" true)
      else
        let activity := if block then Activity.parsingBlockNode else .parsingFlowNode
        stop (.at .noNodeContent token.start (some (activity, start)))

/-- A node, or an empty one if a token of these comes next. -/
def nodeUnless : (steps : Nat) → (ends : List TokenKind) → (block indentless : Bool) → Mark →
    Compose Node
  | 0, _, _, _, _ => return .broken
  | steps + 1, ends, block, indentless, mark => do
    if ← nextIs ends then empty mark else node steps block indentless

/-- The items of a block sequence that began at `start`. -/
def blockItems : (steps : Nat) → (start : Mark) → Compose (List Node)
  | 0, _ => return [.broken]
  | steps + 1, start => do
    let some token ← peek | return [.broken]
    match token.kind with
    | .blockEntry => do
      take
      let item ← nodeUnless steps [.blockEntry, .blockEnd] true false token.stop
      return item :: (← blockItems steps start)
    | .blockEnd => do
      take
      let _ ← count
      return []
    | _ => return [← stop (.at .noBlockEntry token.start (some (.parsingBlockCollection, start)))]

/-- The items of a block sequence that is not indented. -/
def indentlessItems : (steps : Nat) → Compose (List Node)
  | 0 => return [.broken]
  | steps + 1 => do
    let some token ← peek | return [.broken]
    match token.kind with
    | .blockEntry => do
      take
      let item ← nodeUnless steps [.blockEntry, .key, .value, .blockEnd] true false token.stop
      return item :: (← indentlessItems steps)
    | _ => do
      let _ ← count
      return []

/-- The entries of a block mapping that began at `start`. -/
def blockEntries : (steps : Nat) → (start : Mark) → Compose (List (Node × Node))
  | 0, _ => return [(.broken, .broken)]
  | steps + 1, start => do
    let some token ← peek | return [(.broken, .broken)]
    let ends : List TokenKind := [.key, .value, .blockEnd]
    match token.kind with
    | .key => do
      take
      let key ← nodeUnless steps ends true true token.stop
      let value ← blockValue steps
      return (key, value) :: (← blockEntries steps start)
    | .value => do
      let key ← empty token.start
      let value ← blockValue steps
      return (key, value) :: (← blockEntries steps start)
    | .blockEnd => do
      take
      let _ ← count
      return []
    | _ =>
      let node ← stop (.at .noBlockKey token.start (some (.parsingBlockMapping, start)))
      return [(node, .broken)]

/-- The value of an entry of a block mapping. -/
def blockValue : (steps : Nat) → Compose Node
  | 0 => return .broken
  | steps + 1 => do
    let some token ← peek | return .broken
    match token.kind with
    | .value => do
      take
      nodeUnless steps [.key, .value, .blockEnd] true true token.stop
    | _ => empty token.start

/-- The items of a flow sequence that began at `start`. -/
def flowItems : (steps : Nat) → (start : Mark) → (first : Bool) → Compose (List Node)
  | 0, _, _ => return [.broken]
  | steps + 1, start, first => do
    let some token ← peek | return [.broken]
    match token.kind, first with
    | .flowSequenceEnd, _ => flowItem steps start token
    | _, true => flowItem steps start token
    | .flowEntry, false => do
      take
      let some token ← peek | return [.broken]
      flowItem steps start token
    | _, false =>
      return [← stop (.at .noSequenceEntry token.start (some (.parsingFlowSequence, start)))]

/-- The items of a flow sequence from one whose first token comes next. -/
def flowItem : (steps : Nat) → (start : Mark) → Token → Compose (List Node)
  | 0, _, _ => return [.broken]
  | steps + 1, start, token => do
    match token.kind with
    | .flowSequenceEnd => do
      take
      let _ ← count
      return []
    | .key => do
      let item ← pair steps token.start
      return item :: (← flowItems steps start false)
    | _ => do
      let item ← node steps false false
      return item :: (← flowItems steps start false)

/-- A mapping of one entry without brackets, inside a flow sequence. -/
def pair : (steps : Nat) → (start : Mark) → Compose Node
  | 0, _ => return .broken
  | steps + 1, start => do
    let ends : List TokenKind := [.flowEntry, .flowSequenceEnd]
    let _ ← count
    take
    let some token ← peek | return .mapping start none [(.broken, .broken)]
    let key ←
      if (TokenKind.value :: ends).contains token.kind then do
        take
        empty token.stop
      else node steps false false
    let value ← flowValue steps ends
    if (← peek).isNone then return .mapping start none [(key, value), (.broken, .broken)]
    let _ ← count
    return .mapping start none [(key, value)]

/-- The value of an entry inside a flow collection; `ends` are the tokens that come after values. -/
def flowValue : (steps : Nat) → (ends : List TokenKind) → Compose Node
  | 0, _ => return .broken
  | steps + 1, ends => do
    let some token ← peek | return .broken
    if token.kind == .value then do
      take
      let some token ← peek | return .broken
      nodeUnless steps ends false false token.start
    else empty token.start

/-- The entries of a flow mapping that began at `start`. -/
def flowEntries : (steps : Nat) → (start : Mark) → (first : Bool) → Compose (List (Node × Node))
  | 0, _, _ => return [(.broken, .broken)]
  | steps + 1, start, first => do
    let some token ← peek | return [(.broken, .broken)]
    match token.kind, first with
    | .flowMappingEnd, _ => flowEntry steps start token
    | _, true => flowEntry steps start token
    | .flowEntry, false => do
      take
      let some token ← peek | return [(.broken, .broken)]
      flowEntry steps start token
    | _, false =>
      let node ← stop (.at .noMappingEntry token.start (some (.parsingFlowMapping, start)))
      return [(node, .broken)]

/-- The entries of a flow mapping from one whose first token comes next. -/
def flowEntry : (steps : Nat) → (start : Mark) → Token → Compose (List (Node × Node))
  | 0, _, _ => return [(.broken, .broken)]
  | steps + 1, start, token => do
    let ends : List TokenKind := [.flowEntry, .flowMappingEnd]
    match token.kind with
    | .flowMappingEnd => do
      take
      let _ ← count
      return []
    | .key => do
      take
      let some token ← peek | return [(.broken, .broken)]
      let key ← nodeUnless steps (.value :: ends) false false token.start
      let value ← flowValue steps ends
      return (key, value) :: (← flowEntries steps start false)
    | _ => do
      let key ← node steps false false
      let some token ← peek | return [(key, .broken)]
      let value ← empty token.start
      return (key, value) :: (← flowEntries steps start false)

end

/-! ## Documents -/

/-- What the tag handles stand for that need no directive. -/
def defaultHandles : List (String × Tag) := [("!", .anonymous), ("!!", .core "")]

/-- Takes the directives that come next; `versions` have been taken before. -/
def directives : (steps : Nat) → (version : Bool) → (handles : List (String × Tag)) →
    Compose (List (String × Tag))
  | 0, _, handles => return handles
  | steps + 1, version, handles => do
    let some token ← peek | return handles
    let refuse (problem : Problem) : Compose (List (String × Tag)) := do
      let _ ← stop (.at problem token.start)
      return handles
    match token.kind with
    | .versionDirective major minor =>
      if version then refuse .duplicateVersion
      else if major != 1 || (minor != 1 && minor != 2) then refuse .incompatibleVersion
      else do
        take
        directives steps true handles
    | .tagDirective handle expansion =>
      if (handles.lookup handle).isSome then refuse .duplicateTagHandle
      else do
        take
        directives steps version (handles ++ [(handle, expansion)])
    | _ => return handles

/-- The start of a document: directives and an indicator, or nothing. Tells whether there is one,
and whether it began with an indicator. -/
def documentStart (steps : Nat) : Compose (Option Bool) := do
  let some token ← peek | return some true
  match token.kind with
  | .streamEnd => return none
  | .versionDirective .. | .tagDirective .. | .documentStart => do
    let handles ← directives steps false []
    modify fun c => { c with handles := handles ++ defaultHandles }
    let some token ← peek | return some true
    if token.kind == .documentStart then take
    else let _ ← stop (.at .noDocumentStart token.start)
    return some true
  | _ => do
    modify fun c => { c with handles := defaultHandles }
    return some false

/-- A token that follows a document without content. -/
def endsEmptyDocument : TokenKind → Bool
  | .versionDirective .. | .tagDirective .. | .documentStart | .documentEnd | .streamEnd => true
  | _ => false

/-- The node of a document that has started. -/
def documentNode (steps : Nat) (explicit : Bool) : Compose Node := do
  let some token ← peek | return .broken
  if explicit && endsEmptyDocument token.kind then empty token.start else node steps true false

/-- Takes the tokens that end documents. -/
def documentEnds : (steps : Nat) → Compose Unit
  | 0 => return ()
  | steps + 1 => do
    if ← nextIs [.documentEnd] then
      take
      documentEnds steps

/-- The first document. -/
def document (steps : Nat) : Compose Document := do
  if ← nextIs [.streamStart] then take
  let some explicit ← documentStart steps | return { root? := none, size := 1 }
  let root ← documentNode steps explicit
  let _ ← peek
  let c ← get
  documentEnds steps
  return {
    root? := some root
    anchored := c.places.filterMap fun (number, place) =>
      (c.complete.lookup place).map (number, ·)
    size := c.size
    fault? := c.fault?
    more := !(← nextIs [.streamEnd]) }

end Compose

/-- The first document of a text. -/
def Document.ofText (text : String) : Document :=
  let cs := text.toList
  (Compose.document (8 * cs.length + 64) { lexer := .ofChars cs }).1

end CompletionService.Yaml
