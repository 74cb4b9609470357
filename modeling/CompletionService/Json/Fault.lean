import CompletionService.Json.Mismatch
import CompletionService.Text.Offset

/-!
# Faults in a JSON text

A reader that stops says why and how many bytes of the text lie behind the fault. Counting from
the end keeps readers free of positions: what is still unread is all that they hold. The line and
the column follow from the whole text (`Fault.place`).
-/

namespace CompletionService.Json

open Text

/-- Why a text is no JSON text. -/
inductive SyntaxFault
  | endInValue
  | endInArray
  | endInObject
  | endInString
  | expectedColon
  | expectedCommaOrBracket
  | expectedCommaOrBrace
  | expectedIdentifier
  | expectedValue
  | invalidEscape
  | invalidNumber
  | numberOutOfRange
  | controlCharacter
  | keyNotAString
  | loneSurrogate
  | unfinishedSurrogatePair
  | trailingComma
  | trailingCharacters
  | tooDeep
  deriving DecidableEq, Repr

/-- The wording of a syntax fault. -/
def SyntaxFault.message : SyntaxFault → String
  | .endInValue => "EOF while parsing a value"
  | .endInArray => "EOF while parsing a list"
  | .endInObject => "EOF while parsing an object"
  | .endInString => "EOF while parsing a string"
  | .expectedColon => "expected `:`"
  | .expectedCommaOrBracket => "expected `,` or `]`"
  | .expectedCommaOrBrace => "expected `,` or `\x7d`"
  | .expectedIdentifier => "expected ident"
  | .expectedValue => "expected value"
  | .invalidEscape => "invalid escape"
  | .invalidNumber => "invalid number"
  | .numberOutOfRange => "number out of range"
  | .controlCharacter => "control character (\\u0000-\\u001F) found while parsing a string"
  | .keyNotAString => "key must be a string"
  | .loneSurrogate => "lone leading surrogate in hex escape"
  | .unfinishedSurrogatePair => "unexpected end of hex escape"
  | .trailingComma => "trailing comma"
  | .trailingCharacters => "trailing characters"
  | .tooDeep => "recursion limit exceeded"

/-- Why reading stopped. -/
inductive Cause
  | form (fault : SyntaxFault)
  | mismatch (found : Mismatch)

/-- The wording of a cause. -/
def Cause.message : Cause → String
  | .form f => f.message
  | .mismatch m => m.message

/-- Why reading stopped, and how many bytes of the text lie behind that point. -/
structure Fault where
  cause : Cause
  behind : Nat

namespace Fault

/-- A syntax fault before the unread characters. -/
def here (fault : SyntaxFault) (unread : List Char) : Fault :=
  ⟨.form fault, byteLength unread⟩

/-- A syntax fault at the next byte, which counts as seen; at the end of the text there is none. -/
def atNext (fault : SyntaxFault) (unread : List Char) : Fault :=
  ⟨.form fault, byteLength unread - 1⟩

/-- A mismatch before the unread characters. -/
def ofMismatch (m : Mismatch) (unread : List Char) : Fault :=
  ⟨.mismatch m, byteLength unread⟩

/-- The line and the column that `count` bytes of a text reach, from those before it. A line end
begins the next line, at column 0. -/
def placeFrom (line column : Nat) : (count : Nat) → List Char → Nat × Nat
  | _, [] => (line, column)
  | count, c :: cs =>
    if c.utf8Size ≤ count then
      if c = '\n' then placeFrom (line + 1) 0 (count - c.utf8Size) cs
      else placeFrom line (column + c.utf8Size) (count - c.utf8Size) cs
    else (line, column + count)

/-- The line and the column of a fault in a text. -/
def place (fault : Fault) (text : List Char) : Nat × Nat :=
  placeFrom 1 0 (byteLength text - fault.behind) text

end Fault

/-- Why a JSON text could not be read, and where. A mismatch in a value that is no text has no
place. -/
structure Error where
  cause : Cause
  place? : Option (Nat × Nat)

/-- The wording of an error. -/
def Error.message (e : Error) : String :=
  match e.place? with
  | some (line, column) => s!"{e.cause.message} at line {line} column {column}"
  | none => e.cause.message

/-- A mismatch in a value. -/
def Error.ofMismatch (m : Mismatch) : Error := ⟨.mismatch m, none⟩

/-- A fault in a text. -/
def Error.ofFault (fault : Fault) (text : List Char) : Error :=
  ⟨fault.cause, some (fault.place text)⟩

end CompletionService.Json
