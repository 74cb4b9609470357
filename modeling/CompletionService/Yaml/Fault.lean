/-!
# Faults in a YAML text

A `Mark` is a place in a text. A `Fault` says why a text is no YAML: the problem, where it shows,
and the construct that was being read there. Lines and columns count from 0 and are shown from 1;
the very start of a text is not shown at all.
-/

namespace CompletionService.Yaml

/-- A place in a text. -/
structure Mark where
  /-- the number of bytes before it -/
  index : Nat := 0
  line : Nat := 0
  column : Nat := 0
  deriving DecidableEq, Repr, Inhabited

namespace Mark

/-- The start of the text. -/
def atStart (m : Mark) : Bool := m.line == 0 && m.column == 0

/-- The same line and column. -/
def sameSpot (m n : Mark) : Bool := m.line == n.line && m.column == n.column

/-- The wording of a place. -/
def words (m : Mark) : String := s!"line {m.line + 1} column {m.column + 1}"

/-- The place as it is added to a message, which the start of the text is not. -/
def suffix (m : Mark) : String := if m.atStart then "" else " at " ++ m.words

end Mark

/-- What is wrong with a text. -/
inductive Problem
  | missingColon
  | blockEntryNotAllowed
  | keyNotAllowed
  | valueNotAllowed
  | noToken
  | unknownDirective
  | noLineEnd
  | noDirectiveName
  | oddDirectiveName
  | noVersionPoint
  | longVersion
  | noVersion
  | noBlank
  | noBlankOrLineEnd
  | noName
  | noTagEnd
  | noTagStart
  | noTagUri
  | noTagEscape
  | badLeadingOctet
  | badTrailingOctet
  | zeroIndentation
  | tabForIndentation
  | documentIndicator
  | endOfStream
  | unknownEscape
  | noHexNumber
  | badCodePoint
  | unexpectedColon
  | tabViolatesIndentation
  | noStreamStart
  | noDocumentStart
  | undefinedTagHandle
  | noNodeContent
  | noBlockEntry
  | noBlockKey
  | noSequenceEntry
  | noMappingEntry
  | duplicateVersion
  | incompatibleVersion
  | duplicateTagHandle
  | unknownAnchor
  deriving DecidableEq, Repr

/-- The wording of a problem. -/
def Problem.message : Problem → String
  | .missingColon => "could not find expected ':'"
  | .blockEntryNotAllowed => "block sequence entries are not allowed in this context"
  | .keyNotAllowed => "mapping keys are not allowed in this context"
  | .valueNotAllowed => "mapping values are not allowed in this context"
  | .noToken => "found character that cannot start any token"
  | .unknownDirective => "found unknown directive name"
  | .noLineEnd => "did not find expected comment or line break"
  | .noDirectiveName => "could not find expected directive name"
  | .oddDirectiveName => "found unexpected non-alphabetical character"
  | .noVersionPoint => "did not find expected digit or '.' character"
  | .longVersion => "found extremely long version number"
  | .noVersion => "did not find expected version number"
  | .noBlank => "did not find expected whitespace"
  | .noBlankOrLineEnd => "did not find expected whitespace or line break"
  | .noName => "did not find expected alphabetic or numeric character"
  | .noTagEnd => "did not find the expected '>'"
  | .noTagStart => "did not find expected '!'"
  | .noTagUri => "did not find expected tag URI"
  | .noTagEscape => "did not find URI escaped octet"
  | .badLeadingOctet => "found an incorrect leading UTF-8 octet"
  | .badTrailingOctet => "found an incorrect trailing UTF-8 octet"
  | .zeroIndentation => "found an indentation indicator equal to 0"
  | .tabForIndentation => "found a tab character where an indentation space is expected"
  | .documentIndicator => "found unexpected document indicator"
  | .endOfStream => "found unexpected end of stream"
  | .unknownEscape => "found unknown escape character"
  | .noHexNumber => "did not find expected hexadecimal number"
  | .badCodePoint => "found invalid Unicode character escape code"
  | .unexpectedColon => "found unexpected ':'"
  | .tabViolatesIndentation => "found a tab character that violates indentation"
  | .noStreamStart => "did not find expected <stream-start>"
  | .noDocumentStart => "did not find expected <document start>"
  | .undefinedTagHandle => "found undefined tag handle"
  | .noNodeContent => "did not find expected node content"
  | .noBlockEntry => "did not find expected '-' indicator"
  | .noBlockKey => "did not find expected key"
  | .noSequenceEntry => "did not find expected ',' or ']'"
  | .noMappingEntry => "did not find expected ',' or '\x7d'"
  | .duplicateVersion => "found duplicate %YAML directive"
  | .incompatibleVersion => "found incompatible YAML document"
  | .duplicateTagHandle => "found duplicate %TAG directive"
  | .unknownAnchor => "unknown anchor"

/-- What was being read when a problem showed. -/
inductive Activity
  | scanningSimpleKey
  | scanningNextToken
  | scanningDirective
  | scanningVersionDirective
  | scanningTagDirective
  | scanningTagDirectiveHandle
  | parsingTagDirectiveHandle
  | parsingTagDirective
  | scanningAnchor
  | scanningAlias
  | scanningTag
  | parsingTag
  | scanningBlockScalar
  | scanningQuotedScalar
  | parsingQuotedScalar
  | scanningPlainScalar
  | parsingNode
  | parsingBlockNode
  | parsingFlowNode
  | parsingBlockCollection
  | parsingBlockMapping
  | parsingFlowSequence
  | parsingFlowMapping
  deriving DecidableEq, Repr

/-- The wording of an activity. -/
def Activity.words : Activity → String
  | .scanningSimpleKey => "while scanning a simple key"
  | .scanningNextToken => "while scanning for the next token"
  | .scanningDirective => "while scanning a directive"
  | .scanningVersionDirective => "while scanning a %YAML directive"
  | .scanningTagDirective => "while scanning a %TAG directive"
  | .scanningTagDirectiveHandle => "while scanning a tag directive"
  | .parsingTagDirectiveHandle => "while parsing a tag directive"
  | .parsingTagDirective => "while parsing a %TAG directive"
  | .scanningAnchor => "while scanning an anchor"
  | .scanningAlias => "while scanning an alias"
  | .scanningTag => "while scanning a tag"
  | .parsingTag => "while parsing a tag"
  | .scanningBlockScalar => "while scanning a block scalar"
  | .scanningQuotedScalar => "while scanning a quoted scalar"
  | .parsingQuotedScalar => "while parsing a quoted scalar"
  | .scanningPlainScalar => "while scanning a plain scalar"
  | .parsingNode => "while parsing a node"
  | .parsingBlockNode => "while parsing a block node"
  | .parsingFlowNode => "while parsing a flow node"
  | .parsingBlockCollection => "while parsing a block collection"
  | .parsingBlockMapping => "while parsing a block mapping"
  | .parsingFlowSequence => "while parsing a flow sequence"
  | .parsingFlowMapping => "while parsing a flow mapping"

/-- Why a text is no YAML. -/
inductive Fault
  /-- a character that no text may hold, at an offset in bytes -/
  | controlCharacter (offset : Nat)
  /-- a problem at a mark, and what was being read, with the mark where that began -/
  | at (problem : Problem) (mark : Mark) (context? : Option (Activity × Mark) := none)
  deriving DecidableEq, Repr

/-- The wording of a fault. -/
def Fault.message : Fault → String
  | .controlCharacter offset =>
    "control characters are not allowed" ++ if offset = 0 then "" else s!" at position {offset}"
  | .at problem mark context? =>
    let context := match context? with
      | none => ""
      | some (activity, start) =>
        s!", {activity.words}" ++ if start.sameSpot mark then "" else start.suffix
    problem.message ++ mark.suffix ++ context

end CompletionService.Yaml
