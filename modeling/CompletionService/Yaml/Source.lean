import CompletionService.Text.Offset
import CompletionService.Yaml.Fault

/-!
# The characters of a YAML text

A `Source` is what is left of a text and the mark of its first character. Moving on past characters
keeps the mark right; a line end, of one character or two, goes to the next line. Here are also the
classes of characters that the tokens are made of.

A text comes in windows of 16384 bytes, and a window in which there is a character that no text may
hold cannot be read at all. So whatever looks at characters says first how many it may look at, by
`require`, which fails if that reaches into such a window.
-/

namespace CompletionService.Yaml

/-! ## Classes of characters -/

/-- A line end: the usual two, next line, and the separators of lines and paragraphs. -/
def isBreak (c : Char) : Bool :=
  c == '\n' || c == '\r' || c == '\u0085' || c == '\u2028' || c == '\u2029'

/-- Space or tab. -/
def isBlank (c : Char) : Bool := c == ' ' || c == '\t'

/-- What separates, opens and closes inside flow collections. -/
def isFlowIndicator (c : Char) : Bool :=
  c == ',' || c == '[' || c == ']' || c == '{' || c == '}'

/-- What names of anchors, directives and tag handles consist of. -/
def isWord (c : Char) : Bool := c.isAlphanum || c == '_' || c == '-'

/-- The characters that a text may hold. -/
def isAllowed (c : Char) : Bool :=
  let n := c.toNat
  n == 0x09 || n == 0x0A || n == 0x0D || (0x20 ≤ n && n ≤ 0x7E) || n == 0x85 ||
    (0xA0 ≤ n && n ≤ 0xD7FF) || (0xE000 ≤ n && n ≤ 0xFFFD) || 0x10000 ≤ n

/-! ## Windows -/

/-- The greatest number of bytes in a window; a character is never split between two. -/
def windowSize : Nat := 16384

/-- How many characters come in the windows before the one that holds the first character that no
text may hold. Of the current window `room` bytes are left; `before` characters came before it, and
`count` before the first of the list. -/
def readableBefore? (room before count : Nat) : List Char → Option Nat
  | [] => none
  | c :: cs =>
    let (room, before) := if c.utf8Size ≤ room then (room, before) else (windowSize, count)
    if isAllowed c then readableBefore? (room - c.utf8Size) before (count + 1) cs else some before

/-! ## Moving through a text -/

/-- What is left of a text that can be read, and its mark. -/
structure Source where
  rest : List Char
  mark : Mark := {}
  /-- more than the number of characters that are left -/
  bound : Nat
  /-- the offset in bytes of a character that no text may hold, in the window after `rest` -/
  forbidden? : Option Nat := none

namespace Source

/-- All of a text. -/
def ofChars (cs : List Char) : Source :=
  match readableBefore? windowSize 0 0 cs with
  | none => { rest := cs, bound := cs.length + 1 }
  | some count => {
      rest := cs.take count
      bound := count + 1
      forbidden? := some (Text.byteLength (cs.takeWhile isAllowed)) }

/-- So many characters, or all up to the end of the text, can be looked at. -/
def require (s : Source) (n : Nat) : Except Fault Unit :=
  match s.forbidden? with
  | some offset => if (s.rest.take n).length < n then .error (.controlCharacter offset) else .ok ()
  | none => .ok ()

/-- The character so many places ahead. -/
def ahead (s : Source) (n : Nat) : Option Char := s.rest[n]?

/-- The next character is this one. -/
def next (s : Source) (c : Char) : Bool := s.rest.head? == some c

/-- The next character is in the class. -/
def nextIs (s : Source) (p : Char → Bool) : Bool := s.rest.head?.any p

/-- Nothing is left. -/
def atEnd (s : Source) : Bool := s.rest.isEmpty

/-- The character so many places ahead is in the class, or the text has ended there. -/
def aheadOrEnd (s : Source) (n : Nat) (p : Char → Bool) : Bool :=
  match s.ahead n with
  | some c => p c
  | none => true

/-- A blank, a line end or the end of the text stands so many places ahead. -/
def blankOrEnd (s : Source) (n : Nat) : Bool := s.aheadOrEnd n fun c => isBlank c || isBreak c

/-- A line end or the end of the text comes next. -/
def lineEnd (s : Source) : Bool := s.aheadOrEnd 0 isBreak

/-- Past characters of the same line. -/
def skip (s : Source) (n : Nat := 1) : Source :=
  let bytes := Text.byteLength (s.rest.take n)
  { s with
    rest := s.rest.drop n
    mark := { s.mark with index := s.mark.index + bytes, column := s.mark.column + n } }

/-- The characters of a class, none of which ends the line, and what is left. The character after
them is looked at. -/
def takeWhile (s : Source) (p : Char → Bool) : Except Fault (List Char × Source) := do
  let taken := s.rest.takeWhile p
  let rest := s.skip taken.length
  rest.require 1
  return (taken, rest)

/-- Past the characters of a class, none of which ends the line. -/
def skipWhile (s : Source) (p : Char → Bool) : Except Fault Source := (s.takeWhile p).map (·.2)

/-- Past a line end, if one comes next, with the text that it counts as: a line feed, except for the
separators of lines and paragraphs, which stay. -/
def takeBreak (s : Source) : Except Fault (List Char × Source) := do
  s.require 2
  let past (n : Nat) : Source :=
    let bytes := Text.byteLength (s.rest.take n)
    { s with rest := s.rest.drop n, mark := ⟨s.mark.index + bytes, s.mark.line + 1, 0⟩ }
  return match s.rest with
    | '\r' :: '\n' :: _ => (['\n'], past 2)
    | '\r' :: _ | '\n' :: _ | '\u0085' :: _ => (['\n'], past 1)
    | '\u2028' :: _ => (['\u2028'], past 1)
    | '\u2029' :: _ => (['\u2029'], past 1)
    | _ => ([], s)

/-- Past a line end, if one comes next. -/
def skipBreak (s : Source) : Except Fault Source := s.takeBreak.map (·.2)

/-- Three dashes or three points, with a blank after them, at the start of a line. -/
def atDocumentIndicator (s : Source) : Bool :=
  s.mark.column == 0 && s.blankOrEnd 3 &&
    (['-', '-', '-'].isPrefixOf s.rest || ['.', '.', '.'].isPrefixOf s.rest)

end Source

end CompletionService.Yaml
