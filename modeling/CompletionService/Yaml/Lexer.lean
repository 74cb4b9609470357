import CompletionService.Yaml.Lexeme.Scalar

/-!
# The tokens of a YAML text, on demand

A `Lexer` holds the source, the tokens that have been read but not taken, and what decides about the
next one: the indentation of the open block collections, and for every level of nesting the token
that may turn out to be a key. A token that may still become a key is not given out before that is
settled, since a colon puts other tokens in front of it.

`peek` looks at the next token and `take` removes it.
-/

namespace CompletionService.Yaml

/-- A token that is a key if a colon follows on the same line. -/
structure PossibleKey where
  /-- it must be one, because it stands at the indentation of the block -/
  required : Bool
  /-- its place among all tokens of the text -/
  number : Nat
  mark : Mark

/-- The state of reading tokens. -/
structure Lexer where
  source : Source
  /-- the tokens that were read but not taken -/
  queue : List Token := []
  /-- the number of tokens that were taken -/
  taken : Nat := 0
  started : Bool := false
  /-- the indentation of the innermost block collection; -1 outside all -/
  indent : Int := -1
  /-- the indentations around it -/
  outer : List Int := []
  /-- a key may start here -/
  keyAllowed : Bool := false
  /-- for every level of flow collections, innermost first, the token that may be a key -/
  keys : List (Option PossibleKey) := []

namespace Lexer

/-- The number of flow collections that are open. -/
def flowLevel (l : Lexer) : Nat := l.keys.length - 1

/-- Inside a flow collection. -/
def inFlow (l : Lexer) : Bool := l.flowLevel != 0

/-- The mark of the next character. -/
def mark (l : Lexer) : Mark := l.source.mark

/-- Appends a token. -/
def push (l : Lexer) (token : Token) : Lexer := { l with queue := l.queue ++ [token] }

/-- Puts a token at its place among all tokens. -/
def insert (l : Lexer) (number : Nat) (token : Token) : Lexer :=
  { l with queue := l.queue.insertIdx (number - l.taken) token }

/-- A fault at the next character, outside any construct. -/
def refuse {α : Type} (l : Lexer) (problem : Problem) : Except Fault α :=
  .error (.at problem l.mark)

/-! ## Possible keys -/

/-- A key that did not come in time. -/
def lostKey {α : Type} (l : Lexer) (key : PossibleKey) : Except Fault α :=
  .error (.at .missingColon l.mark (some (.scanningSimpleKey, key.mark)))

/-- A key is on one line and at most 1024 bytes long; behind this one there is more. -/
def keyIsStale (l : Lexer) (key : PossibleKey) : Bool :=
  key.mark.line < l.mark.line || key.mark.index + 1024 < l.mark.index

/-- Forgets the tokens that can no longer be keys, unless one of them had to be. -/
def dropStaleKeys (l : Lexer) : Except Fault Lexer :=
  match l.keys.findSome? (·.filter fun key => key.required && l.keyIsStale key) with
  | some key => l.lostKey key
  | none => .ok { l with keys := l.keys.map (·.filter (!l.keyIsStale ·)) }

/-- The innermost token that may be a key will be none. -/
def removeKey (l : Lexer) : Except Fault Lexer :=
  match l.keys with
  | some key :: outer =>
    if key.required then l.lostKey key else .ok { l with keys := none :: outer }
  | _ => .ok l

/-- The next token may be a key, if one is allowed here. -/
def saveKey (l : Lexer) : Except Fault Lexer :=
  if l.keyAllowed then do
    let key : PossibleKey := {
      required := !l.inFlow && l.indent == l.mark.column
      number := l.taken + l.queue.length
      mark := l.mark }
    let l ← l.removeKey
    return { l with keys := some key :: l.keys.drop 1 }
  else .ok l

/-! ## Indentation -/

/-- Opens a block collection at a column that is deeper than the indentation; its token comes last,
or at the given place. -/
def rollIndent (l : Lexer) (column : Nat) (number? : Option Nat) (kind : TokenKind) (mark : Mark) :
    Lexer :=
  if !l.inFlow && l.indent < column then
    let l := { l with indent := column, outer := l.indent :: l.outer }
    match number? with
    | none => l.push ⟨kind, mark, mark⟩
    | some number => l.insert number ⟨kind, mark, mark⟩
  else l

/-- Closes the block collections that are deeper than a column, `outer` being the indentations
around the innermost. -/
def unrollTo (column : Int) (l : Lexer) : (outer : List Int) → Lexer
  | [] => l
  | indent :: outer =>
    if column < l.indent then
      unrollTo column { l.push ⟨.blockEnd, l.mark, l.mark⟩ with indent, outer } outer
    else l

/-- Closes the block collections that are deeper than a column. -/
def unrollIndent (l : Lexer) (column : Int) : Lexer :=
  if l.inFlow then l else unrollTo column l l.outer

/-! ## Reading the next token -/

/-- Past blanks, comments and line ends. A tab may not stand where a key may start, outside flow
collections. A byte order mark may start a line. -/
def skipToToken : (steps : Nat) → Lexer → Except Fault Lexer
  | 0, l => .ok l
  | steps + 1, l => do
    let s := l.source
    s.require 1
    let s := if s.mark.column == 0 && s.next '\uFEFF' then s.skip else s
    let s ← s.skipWhile fun c => c == ' ' || ((l.inFlow || !l.keyAllowed) && c == '\t')
    let s ← if s.next '#' then s.skipWhile (!isBreak ·) else .ok s
    if s.nextIs isBreak then
      let source ← s.skipBreak
      skipToToken steps { l with source, keyAllowed := !l.inFlow || l.keyAllowed }
    else .ok { l with source := s }

/-- A token of the next characters, so many. -/
def pushIndicator (l : Lexer) (kind : TokenKind) (width : Nat := 1) : Lexer :=
  let rest := l.source.skip width
  { l with source := rest }.push ⟨kind, l.mark, rest.mark⟩

/-- The tokens at the end of the text. -/
def fetchStreamEnd (l : Lexer) : Except Fault Lexer := do
  let mark : Mark :=
    if l.mark.column = 0 then l.mark else { l.mark with line := l.mark.line + 1, column := 0 }
  let l := { l with source := { l.source with mark } }
  let l ← (l.unrollIndent (-1)).removeKey
  return { l with keyAllowed := false }.push ⟨.streamEnd, l.mark, l.mark⟩

/-- A directive. -/
def fetchDirective (l : Lexer) : Except Fault Lexer := do
  let l ← (l.unrollIndent (-1)).removeKey
  let (token, source) ← readDirective l.source
  return { l with keyAllowed := false, source }.push token

/-- The start or the end of a document. -/
def fetchDocumentIndicator (l : Lexer) (kind : TokenKind) : Except Fault Lexer := do
  let l ← (l.unrollIndent (-1)).removeKey
  return { l with keyAllowed := false }.pushIndicator kind 3

/-- The start of a flow collection. -/
def fetchFlowStart (l : Lexer) (kind : TokenKind) : Except Fault Lexer := do
  let l ← l.saveKey
  return { l with keys := none :: l.keys, keyAllowed := true }.pushIndicator kind

/-- The end of a flow collection. -/
def fetchFlowEnd (l : Lexer) (kind : TokenKind) : Except Fault Lexer := do
  let l ← l.removeKey
  let keys := if l.inFlow then l.keys.drop 1 else l.keys
  return { l with keys, keyAllowed := false }.pushIndicator kind

/-- A comma inside a flow collection. -/
def fetchFlowEntry (l : Lexer) : Except Fault Lexer := do
  let l ← l.removeKey
  return { l with keyAllowed := true }.pushIndicator .flowEntry

/-- A dash before an entry. -/
def fetchBlockEntry (l : Lexer) : Except Fault Lexer := do
  let l ←
    if l.inFlow then .ok l
    else if !l.keyAllowed then l.refuse .blockEntryNotAllowed
    else .ok (l.rollIndent l.mark.column none .blockSequenceStart l.mark)
  let l ← l.removeKey
  return { l with keyAllowed := true }.pushIndicator .blockEntry

/-- A question mark before a key. -/
def fetchKey (l : Lexer) : Except Fault Lexer := do
  let l ←
    if l.inFlow then .ok l
    else if !l.keyAllowed then l.refuse .keyNotAllowed
    else .ok (l.rollIndent l.mark.column none .blockMappingStart l.mark)
  let l ← l.removeKey
  return { l with keyAllowed := !l.inFlow }.pushIndicator .key

/-- A colon. The token before it that may be a key is one now. -/
def fetchValue (l : Lexer) : Except Fault Lexer :=
  match l.keys with
  | some key :: outer =>
    -- the key comes before its token, and the start of its mapping before the key
    let l := l.insert key.number ⟨.key, key.mark, key.mark⟩
    let l := l.rollIndent key.mark.column (some key.number) .blockMappingStart key.mark
    .ok ({ l with keys := none :: outer, keyAllowed := false }.pushIndicator .value)
  | _ => do
    let l ←
      if l.inFlow then .ok l
      else if !l.keyAllowed then l.refuse .valueNotAllowed
      else .ok (l.rollIndent l.mark.column none .blockMappingStart l.mark)
    return { l with keyAllowed := !l.inFlow }.pushIndicator .value

/-- A token that may be a key, read by the given function. -/
def fetchKeyed (l : Lexer) (read : Source → Except Fault (Token × Source)) :
    Except Fault Lexer := do
  let l ← l.saveKey
  let (token, source) ← read l.source
  return { l with keyAllowed := false, source }.push token

/-- A block scalar. -/
def fetchBlock (l : Lexer) (folded : Bool) : Except Fault Lexer := do
  let l ← l.removeKey
  let (token, source) ← readBlock folded l.indent l.source
  return { l with keyAllowed := true, source }.push token

/-- A plain scalar. -/
def fetchPlain (l : Lexer) : Except Fault Lexer := do
  let l ← l.saveKey
  let (token, broken, source) ← readPlain l.inFlow l.indent l.source
  return { l with keyAllowed := broken, source }.push token

/-- A plain scalar may start with this character. -/
def startsPlain (l : Lexer) (c : Char) : Bool :=
  let s := l.source
  !(isBlank c || isBreak c || isFlowIndicator c || "-?:#&*!|>'\"%@`".toList.contains c) ||
    (c == '-' && !(s.ahead 1).any isBlank) ||
    (!l.inFlow && (c == '?' || c == ':') && !s.blankOrEnd 1)

/-- Reads one more token, with those that it brings along. -/
def fetch (l : Lexer) : Except Fault Lexer := do
  l.source.require 1
  if !l.started then
    return { l with started := true, keyAllowed := true, keys := [none] }.push
      ⟨.streamStart, l.mark, l.mark⟩
  let l ← (← skipToToken l.source.bound l).dropStaleKeys
  let l := l.unrollIndent l.mark.column
  let s := l.source
  s.require 4
  match s.rest with
  | [] => l.fetchStreamEnd
  | c :: _ =>
    if s.mark.column == 0 && c == '%' then l.fetchDirective
    else if s.atDocumentIndicator then
      l.fetchDocumentIndicator (if c == '-' then .documentStart else .documentEnd)
    else if c == '[' then l.fetchFlowStart .flowSequenceStart
    else if c == '{' then l.fetchFlowStart .flowMappingStart
    else if c == ']' then l.fetchFlowEnd .flowSequenceEnd
    else if c == '}' then l.fetchFlowEnd .flowMappingEnd
    else if c == ',' then l.fetchFlowEntry
    else if c == '-' && s.blankOrEnd 1 then l.fetchBlockEntry
    else if c == '?' && (l.inFlow || s.blankOrEnd 1) then l.fetchKey
    else if c == ':' && (l.inFlow || s.blankOrEnd 1) then l.fetchValue
    else if c == '*' then l.fetchKeyed (readAnchor true)
    else if c == '&' then l.fetchKeyed (readAnchor false)
    else if c == '!' then l.fetchKeyed (readTag l.inFlow)
    else if c == '|' && !l.inFlow then l.fetchBlock false
    else if c == '>' && !l.inFlow then l.fetchBlock true
    else if c == '\'' then l.fetchKeyed (readQuoted true)
    else if c == '"' then l.fetchKeyed (readQuoted false)
    else if l.startsPlain c then l.fetchPlain
    else faultAt s .noToken .scanningNextToken s.mark

/-! ## Taking tokens -/

/-- The first token of the queue may still become a key. -/
def headMayBeKey (l : Lexer) : Bool :=
  l.keys.any fun key? => key?.any (·.number == l.taken)

/-- Reads tokens until the first of them is settled. -/
def fill : (steps : Nat) → Lexer → Except Fault Lexer
  | 0, l => .ok l
  | steps + 1, l =>
    if l.queue.isEmpty then do fill steps (← l.fetch)
    else do
      let l ← l.dropStaleKeys
      if l.headMayBeKey then fill steps (← l.fetch) else .ok l

/-- The next token, and the lexer that holds it. -/
def peek (l : Lexer) : Except Fault (Token × Lexer) := do
  let l ← fill (l.source.bound + 4) l
  match l.queue with
  | token :: _ => .ok (token, l)
  | [] => .ok (⟨.streamEnd, l.mark, l.mark⟩, l)

/-- Removes the token that was looked at. -/
def take (l : Lexer) : Lexer := { l with queue := l.queue.drop 1, taken := l.taken + 1 }

/-- The tokens of a text. -/
def ofChars (cs : List Char) : Lexer := { source := .ofChars cs }

end Lexer

end CompletionService.Yaml
