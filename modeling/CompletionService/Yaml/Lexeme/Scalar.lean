import CompletionService.Yaml.Lexeme.Name

/-!
# Scalars

The five ways to write a scalar: literal and folded blocks, single and double quotes, and plain.
Line ends inside a scalar are folded, except in a literal block: a single one becomes a space, of
several the first is dropped. `Folding` holds what stands between two pieces of text until it is
known whether more text follows.
-/

namespace CompletionService.Yaml

/-! ## Folding -/

/-- Blanks and line ends that were read after a piece of text, the lists in reverse. -/
structure Folding where
  /-- a line end has been read -/
  broken : Bool := false
  /-- the blanks before the first line end -/
  blanks : List Char := []
  /-- the first line end -/
  first : List Char := []
  /-- the line ends after it -/
  later : List Char := []

namespace Folding

/-- One more blank; after a line end it does not count. -/
def pushBlank (f : Folding) (c : Char) : Folding :=
  if f.broken then f else { f with blanks := c :: f.blanks }

/-- One more line end; the blanks before the first do not count any more. -/
def pushBreak (f : Folding) (line : List Char) : Folding :=
  if f.broken then { f with later := line.reverse ++ f.later }
  else { f with broken := true, blanks := [], first := line }

/-- What the blanks and line ends become when text follows, in reverse. -/
def joint (f : Folding) : List Char :=
  if !f.broken then f.blanks
  else if f.first == ['\n'] then (if f.later.isEmpty then [' '] else f.later)
  else f.later ++ f.first.reverse

end Folding

/-! ## Blocks -/

/-- Spaces of indentation and empty lines. `indent` is 0 as long as it is not known; then the
deepest column that was reached is recorded in `deepest`. Gives the source at the first text, the
line ends that were passed, the mark after the last of them, and the deepest column. -/
def skipEmptyLines (start : Mark) (indent : Nat) :
    (steps : Nat) → (deepest : Nat) → (breaks : List Char) → (stop : Mark) → Source →
      Except Fault (Source × List Char × Mark × Nat)
  | 0, deepest, breaks, stop, s => .ok (s, breaks, stop, deepest)
  | steps + 1, deepest, breaks, stop, s => do
    let spaces := (s.rest.takeWhile (· == ' ')).length
    let s := s.skip (if indent = 0 then spaces else min spaces (indent - s.mark.column))
    s.require 1
    let deepest := max deepest s.mark.column
    if (indent = 0 || s.mark.column < indent) && s.next '\t' then
      faultAt s .tabForIndentation .scanningBlockScalar start
    else if s.nextIs isBreak then
      let (line, s) ← s.takeBreak
      skipEmptyLines start indent steps deepest (breaks ++ line) s.mark s
    else .ok (s, breaks, stop, deepest)

/-- The indentation of a block whose header gives none: that of the deepest of its first lines, but
more than that of what is around it. -/
def detectIndent (around : Int) (deepest : Nat) : Nat := max (max deepest (around + 1).toNat) 1

/-- The lines of a block, after the text `before`, held in reverse. `lineBreak` is the line end
after the last line, `breaks` are the empty lines after it, and `blankBefore` tells whether that
line began with a blank. -/
def readBlockLines (folded : Bool) (start : Mark) (indent : Nat) :
    (steps : Nat) → (before lineBreak breaks : List Char) → (blankBefore : Bool) →
      (stop : Mark) → Source →
      Except Fault ((List Char × List Char × List Char) × Mark × Source)
  | 0, before, lineBreak, breaks, _, stop, s => .ok ((before, lineBreak, breaks), stop, s)
  | steps + 1, before, lineBreak, breaks, blankBefore, stop, s =>
    if s.mark.column == indent && !s.atEnd then do
      let blank := s.nextIs isBlank
      let joint :=
        if folded && lineBreak.head? == some '\n' && !blankBefore && !blank then
          (if breaks.isEmpty then [' '] else [])
        else lineBreak
      let (line, s) ← s.takeWhile (!isBreak ·)
      let (lineBreak, s) ← s.takeBreak
      let (s, laterBreaks, stop, _) ← skipEmptyLines start indent s.bound 0 [] s.mark s
      readBlockLines folded start indent steps
        (line.reverse ++ (breaks.reverse ++ (joint.reverse ++ before))) lineBreak laterBreaks blank
        stop s
    else .ok ((before, lineBreak, breaks), stop, s)

/-- What becomes of the line ends at the end of a block. -/
inductive Chomping
  | strip
  | clip
  | keep
  deriving DecidableEq

/-- The sign that says what becomes of the line ends at the end of a block. -/
def chomping? : Option Char → Option Chomping
  | some '+' => some .keep
  | some '-' => some .strip
  | _ => none

/-- The header of a block: the chomping and the indentation, in either order, and the rest of the
line. -/
def readBlockHeader (start : Mark) (s : Source) : Except Fault (Chomping × Nat × Source) := do
  let digit (s : Source) : Except Fault (Nat × Source) := do
    s.require 1
    match s.rest.head? with
    | some c =>
      if c = '0' then faultAt s .zeroIndentation .scanningBlockScalar start
      else if c.isDigit then .ok (c.toNat - '0'.toNat, s.skip)
      else .ok (0, s)
    | none => .ok (0, s)
  s.require 1
  let (chomping, indent, s) ← match chomping? s.rest.head? with
    | some chomping => do
      let (indent, s) ← digit s.skip
      .ok (chomping, indent, s)
    | none => do
      let (indent, s) ← digit s
      s.require 1
      match if indent = 0 then none else chomping? s.rest.head? with
      | some chomping => .ok (chomping, indent, s.skip)
      | none => .ok (.clip, indent, s)
  let s ← skipComment s
  if s.lineEnd then .ok (chomping, indent, ← s.skipBreak)
  else faultAt s .noLineEnd .scanningBlockScalar start

/-- A literal or folded block, at its indicator, inside something indented by `around`. -/
def readBlock (folded : Bool) (around : Int) (s : Source) : Except Fault (Token × Source) := do
  let start := s.mark
  let (chomping, given, s) ← readBlockHeader start s.skip
  let steps := s.bound
  let fixed := if given = 0 then 0 else if 0 ≤ around then around.toNat + given else given
  let (s, breaks, stop, deepest) ← skipEmptyLines start fixed steps 0 [] s.mark s
  let indent := if fixed = 0 then detectIndent around deepest else fixed
  let ((text, lineBreak, breaks), stop, s) ←
    readBlockLines folded start indent steps [] [] breaks false stop s
  let text := match chomping with
    | .strip => text.reverse
    | .clip => text.reverse ++ lineBreak
    | .keep => text.reverse ++ lineBreak ++ breaks
  .ok (⟨.scalar (String.ofList text) (if folded then .folded else .literal), start, stop⟩, s)

/-! ## Blanks and line ends between pieces -/

/-- Blanks and line ends, after those of the folding. In a plain scalar a tab may not stand in the
indentation, which ends at the column `indent`. -/
def readFolding (plain? : Option (Mark × Nat)) :
    (steps : Nat) → Folding → Source → Except Fault (Folding × Source)
  | 0, f, s => .ok (f, s)
  | steps + 1, f, s => do
    s.require 1
    match s.rest with
    | [] => .ok (f, s)
    | c :: _ =>
      if isBlank c then
        match plain? with
        | some (start, indent) =>
          if f.broken && s.mark.column < indent && c == '\t' then
            faultAt s .tabViolatesIndentation .scanningPlainScalar start
          else readFolding plain? steps (f.pushBlank c) s.skip
        | none => readFolding plain? steps (f.pushBlank c) s.skip
      else if isBreak c then
        let (line, s) ← s.takeBreak
        readFolding plain? steps (f.pushBreak line) s
      else .ok (f, s)

/-! ## Quotes -/

/-- The character that an escape of one letter stands for. -/
def simpleEscape? : Char → Option Char
  | '0' => some '\x00'
  | 'a' => some '\x07'
  | 'b' => some '\x08'
  | 't' | '\t' => some '\t'
  | 'n' => some '\n'
  | 'v' => some '\x0B'
  | 'f' => some '\x0C'
  | 'r' => some '\r'
  | 'e' => some '\x1B'
  | ' ' => some ' '
  | '"' => some '"'
  | '/' => some '/'
  | '\\' => some '\\'
  | 'N' => some '\u0085'
  | '_' => some '\u00A0'
  | 'L' => some '\u2028'
  | 'P' => some '\u2029'
  | _ => none

/-- The number of digits that an escape by code point has. -/
def escapeDigits? : Char → Option Nat
  | 'x' => some 2
  | 'u' => some 4
  | 'U' => some 8
  | _ => none

/-- An escape, at its backslash. -/
def readEscape (start : Mark) (s : Source) : Except Fault (Char × Source) := do
  match s.ahead 1 with
  | none => faultAt s .unknownEscape .parsingQuotedScalar start
  | some c =>
    match simpleEscape? c, escapeDigits? c with
    | some e, _ => .ok (e, s.skip 2)
    | none, none => faultAt s .unknownEscape .parsingQuotedScalar start
    | none, some count =>
      let s := s.skip 2
      s.require count
      let digits := s.rest.take count
      match (Text.number? 16 digits).filter fun _ => digits.length == count with
      | none => faultAt s .noHexNumber .parsingQuotedScalar start
      | some code =>
        if (0xD800 ≤ code && code ≤ 0xDFFF) || 0x10FFFF < code then
          faultAt s .badCodePoint .parsingQuotedScalar start
        else .ok (Char.ofNat code, s.skip count)

/-- The characters of a quoted scalar up to a blank, a line end or the closing quote, after those of
`before`, held in reverse. A backslash before a line end joins the lines; the result tells whether
there was one. -/
def readQuotedPiece (single : Bool) (start : Mark) :
    (steps : Nat) → (before : List Char) → Source → Except Fault (List Char × Bool × Source)
  | 0, before, s => .ok (before, false, s)
  | steps + 1, before, s => do
    s.require 2
    match s.rest with
    | [] => .ok (before, false, s)
    | c :: _ =>
      if isBlank c || isBreak c then .ok (before, false, s)
      else if single && c == '\'' && s.ahead 1 == some '\'' then
        readQuotedPiece single start steps ('\'' :: before) (s.skip 2)
      else if c == (if single then '\'' else '"') then .ok (before, false, s)
      else if !single && c == '\\' then
        if (s.ahead 1).any isBreak then .ok (before, true, ← s.skip.skipBreak)
        else
          let (e, s) ← readEscape start s
          readQuotedPiece single start steps (e :: before) s
      else readQuotedPiece single start steps (c :: before) s.skip

/-- The text of a quoted scalar after `before`, held in reverse, up to its closing quote. -/
def readQuotedFrom (single : Bool) (start : Mark) :
    (steps : Nat) → (before : List Char) → Source → Except Fault (List Char × Source)
  | 0, before, s => .ok (before, s)
  | steps + 1, before, s => do
    s.require 4
    if s.atDocumentIndicator then faultAt s .documentIndicator .scanningQuotedScalar start
    else if s.atEnd then faultAt s .endOfStream .scanningQuotedScalar start
    else
      let (before, joined, s) ← readQuotedPiece single start s.bound before s
      s.require 1
      if s.next (if single then '\'' else '"') then .ok (before, s.skip)
      else
        let (f, s) ← readFolding none s.bound { broken := joined } s
        readQuotedFrom single start steps (f.joint ++ before) s

/-- A quoted scalar, at its opening quote. -/
def readQuoted (single : Bool) (s : Source) : Except Fault (Token × Source) := do
  let (text, rest) ← readQuotedFrom single s.mark s.bound [] s.skip
  .ok (tokenTo (.scalar (String.ofList text.reverse)
    (if single then .singleQuoted else .doubleQuoted)) s.mark rest)

/-! ## Plain scalars -/

/-- A plain scalar ends before this character: a colon with a blank after it, or a flow indicator
inside flow collections. -/
def endsPlain (inFlow : Bool) (s : Source) : Bool :=
  (s.next ':' && s.blankOrEnd 1) || (inFlow && s.nextIs isFlowIndicator)

/-- The characters of a plain scalar up to a blank, a line end or its end, after `before`, held in
reverse. -/
def readPlainPiece (inFlow : Bool) (start : Mark) :
    (steps : Nat) → (before : List Char) → Source → Except Fault (List Char × Source)
  | 0, before, s => .ok (before, s)
  | steps + 1, before, s => do
    s.require 2
    match s.rest with
    | [] => .ok (before, s)
    | c :: _ =>
      if isBlank c || isBreak c then .ok (before, s)
      else if inFlow && c == ':' && (s.ahead 1).any (fun d => isFlowIndicator d || d == '?') then
        faultAt s .unexpectedColon .scanningPlainScalar start
      else if endsPlain inFlow s then .ok (before, s)
      else readPlainPiece inFlow start steps (c :: before) s.skip

/-- The text of a plain scalar after `before`, held in reverse, and after a folding that is waiting
for more text. Gives also the mark where the text ends, and whether a line end was read after it. -/
def readPlainFrom (inFlow : Bool) (start : Mark) (indent : Nat) :
    (steps : Nat) → (before : List Char) → Folding → (stop : Mark) → Source →
      Except Fault (List Char × Mark × Bool × Source)
  | 0, before, f, stop, s => .ok (before, stop, f.broken, s)
  | steps + 1, before, f, stop, s => do
    s.require 4
    if s.atDocumentIndicator || s.next '#' then .ok (before, stop, f.broken, s)
    else
      let (piece, rest) ← readPlainPiece inFlow start s.bound [] s
      let (before, f, stop) :=
        if piece.isEmpty then (before, f, stop)
        else (piece ++ (f.joint ++ before), {}, rest.mark)
      if !rest.nextIs (fun c => isBlank c || isBreak c) then .ok (before, stop, f.broken, rest)
      else
        let (f, rest) ← readFolding (some (start, indent)) rest.bound f rest
        if !inFlow && rest.mark.column < indent then .ok (before, stop, f.broken, rest)
        else readPlainFrom inFlow start indent steps before f stop rest

/-- A plain scalar inside something indented by `around`, and whether a line end was read after
it. -/
def readPlain (inFlow : Bool) (around : Int) (s : Source) :
    Except Fault (Token × Bool × Source) := do
  let (text, stop, broken, rest) ←
    readPlainFrom inFlow s.mark (around + 1).toNat s.bound [] {} s.mark s
  .ok (⟨.scalar (String.ofList text.reverse) .plain, s.mark, stop⟩, broken, rest)

end CompletionService.Yaml
