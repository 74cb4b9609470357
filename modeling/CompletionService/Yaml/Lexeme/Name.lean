import CompletionService.Text.Digit
import CompletionService.Text.Utf8
import CompletionService.Yaml.Source
import CompletionService.Yaml.Token

/-!
# Directives, anchors and tags

The tokens that name something. Each function reads one of them from the front of a source, and
gives it with the source after it.
-/

namespace CompletionService.Yaml

/-- A problem at the mark of a source, in something that began at `start`. -/
def faultAt {α : Type} (s : Source) (problem : Problem) (activity : Activity) (start : Mark) :
    Except Fault α :=
  .error (.at problem s.mark (some (activity, start)))

/-- A token from a start to where a source has got to. -/
def tokenTo (kind : TokenKind) (start : Mark) (s : Source) : Token × Source :=
  (⟨kind, start, s.mark⟩, s)

/-! ## Anchors and aliases -/

/-- An anchor or an alias, at its indicator. -/
def readAnchor (isAlias : Bool) (s : Source) : Except Fault (Token × Source) := do
  let (name, rest) ← s.skip.takeWhile isWord
  let ends (c : Char) : Bool :=
    isBlank c || isBreak c || "?:,]\x7d%@`".toList.contains c
  if name.isEmpty || !rest.aheadOrEnd 0 ends then
    faultAt rest .noName (if isAlias then .scanningAlias else .scanningAnchor) s.mark
  else
    let name := String.ofList name
    .ok (tokenTo (if isAlias then .alias name else .anchor name) s.mark rest)

/-! ## Tags -/

/-- A tag handle. In a directive one that is not a mark of its own ends in a mark. -/
def readTagHandle (directive : Bool) (start : Mark) (s : Source) :
    Except Fault (List Char × Source) := do
  s.require 1
  if !s.next '!' then
    faultAt s .noTagStart (if directive then .scanningTagDirectiveHandle else .scanningTag) start
  else
    let (name, rest) ← s.skip.takeWhile isWord
    if rest.next '!' then .ok ('!' :: name ++ ['!'], rest.skip)
    else if directive && !name.isEmpty then
      faultAt rest .noTagStart .parsingTagDirectiveHandle start
    else .ok ('!' :: name, rest)

/-- The octets of one character, each written as a percent sign and two digits. `missing` are still
to come, after `octets`; the first tells how many there are. -/
def readEscapedOctets (activity : Activity) (start : Mark) :
    (steps : Nat) → (octets : List UInt8) → (missing : Nat) → Source →
      Except Fault (List UInt8 × Source)
  | 0, octets, _, s => .ok (octets, s)
  | steps + 1, octets, missing, s => do
    s.require 3
    match s.rest with
    | '%' :: a :: b :: _ =>
      match Text.number? 16 [a, b] with
      | none => faultAt s .noTagEscape activity start
      | some code =>
        let octet : UInt8 := .ofNat code
        if octets.isEmpty then
          let width := if octet &&& 0x80 == 0 then 1 else if octet &&& 0xE0 == 0xC0 then 2
            else if octet &&& 0xF0 == 0xE0 then 3 else if octet &&& 0xF8 == 0xF0 then 4 else 0
          if width = 0 then faultAt s .badLeadingOctet activity start
          else if width = 1 then .ok ([octet], s.skip 3)
          else readEscapedOctets activity start steps [octet] (width - 1) (s.skip 3)
        else if octet &&& 0xC0 != 0x80 then faultAt s .badTrailingOctet activity start
        else if missing ≤ 1 then .ok (octets ++ [octet], s.skip 3)
        else readEscapedOctets activity start steps (octets ++ [octet]) (missing - 1) (s.skip 3)
    | _ => faultAt s .noTagEscape activity start

/-- The characters of a tag URI; flow indicators only where `flow` allows them. -/
def isUri (flow : Bool) (c : Char) : Bool :=
  isWord c || ";/?:@&=+$.%!~*'()".toList.contains c || (flow && ",[]".toList.contains c)

/-- The octets of a tag URI, escapes resolved, after those `before`. -/
def readUriFrom (flow : Bool) (activity : Activity) (start : Mark) :
    (steps : Nat) → (before : List UInt8) → Source → Except Fault (List UInt8 × Source)
  | 0, before, s => .ok (before, s)
  | steps + 1, before, s => do
    s.require 1
    match s.rest with
    | '%' :: _ =>
      let (octets, rest) ← readEscapedOctets activity start 4 [] 0 s
      readUriFrom flow activity start steps (before ++ octets) rest
    | c :: _ =>
      if isUri flow c then
        readUriFrom flow activity start steps (before ++ String.utf8EncodeChar c) (s.skip)
      else .ok (before, s)
    | [] => .ok (before, s)

/-- A tag URI, to which the name in a handle that is no shorthand belongs. -/
def readTagUri (flow directive : Bool) (handle : List Char) (start : Mark) (s : Source) :
    Except Fault (Tag × Source) := do
  let activity := if directive then Activity.parsingTagDirective else .parsingTag
  let head := handle.drop 1
  let (octets, rest) ← readUriFrom flow activity start s.bound [] s
  if handle.isEmpty && octets.isEmpty then faultAt rest .noTagUri activity start
  else .ok (.ofOctets (head.flatMap String.utf8EncodeChar ++ octets), rest)

/-- A tag, at its mark. -/
def readTag (inFlow : Bool) (s : Source) : Except Fault (Token × Source) := do
  s.require 2
  let (handle, suffix, rest) ←
    if s.ahead 1 == some '<' then do
      let (suffix, rest) ← readTagUri true false [] s.mark (s.skip 2)
      if rest.next '>' then .ok ("", suffix, rest.skip)
      else faultAt rest .noTagEnd .scanningTag s.mark
    else do
      let (handle, rest) ← readTagHandle false s.mark s
      if 1 < handle.length && handle.getLast? == some '!' then do
        let (suffix, rest) ← readTagUri false false [] s.mark rest
        .ok (String.ofList handle, suffix, rest)
      else do
        let (suffix, rest) ← readTagUri false false handle s.mark rest
        .ok (if suffix.isEmpty then ("", .anonymous, rest) else ("!", suffix, rest))
  rest.require 1
  if rest.blankOrEnd 0 || (inFlow && rest.next ',') then
    .ok (tokenTo (.tag handle suffix) s.mark rest)
  else faultAt rest .noBlankOrLineEnd .scanningTag s.mark

/-! ## Directives -/

/-- One number of a version. -/
def readVersionNumber (start : Mark) (s : Source) : Except Fault (Nat × Source) := do
  let digits := s.rest.takeWhile Char.isDigit
  if 9 < digits.length then faultAt (s.skip 9) .longVersion .scanningVersionDirective start
  else
    let (digits, rest) ← s.takeWhile Char.isDigit
    if digits.isEmpty then faultAt rest .noVersion .scanningVersionDirective start
    else .ok (digits.foldl (fun n c => n * 10 + (c.toNat - '0'.toNat)) 0, rest)

/-- The version that a directive gives, after its name. -/
def readVersion (start : Mark) (s : Source) : Except Fault (Token × Source) := do
  let (major, rest) ← readVersionNumber start (← s.skipWhile isBlank)
  if !rest.next '.' then faultAt rest .noVersionPoint .scanningVersionDirective start
  else
    let (minor, rest) ← readVersionNumber start rest.skip
    .ok (tokenTo (.versionDirective major minor) start rest)

/-- The tag handle that a directive gives, after its name, and what it stands for. -/
def readTagExpansion (start : Mark) (s : Source) : Except Fault (Token × Source) := do
  let (handle, rest) ← readTagHandle true start (← s.skipWhile isBlank)
  rest.require 1
  if !rest.nextIs isBlank then faultAt rest .noBlank .scanningTagDirective start
  else
    let (expansion, rest) ← readTagUri true true [] start (← rest.skipWhile isBlank)
    if !rest.blankOrEnd 0 then faultAt rest .noBlankOrLineEnd .scanningTagDirective start
    else .ok (tokenTo (.tagDirective (String.ofList handle) expansion) start rest)

/-- Past blanks and a comment, up to a line end. -/
def skipComment (s : Source) : Except Fault Source := do
  let s ← s.skipWhile isBlank
  if s.next '#' then s.skipWhile (!isBreak ·) else .ok s

/-- A directive, at its percent sign, with the line end after it. -/
def readDirective (s : Source) : Except Fault (Token × Source) := do
  let start := s.mark
  let (name, rest) ← s.skip.takeWhile isWord
  if name.isEmpty then faultAt rest .noDirectiveName .scanningDirective start
  else if !rest.blankOrEnd 0 then faultAt rest .oddDirectiveName .scanningDirective start
  else
    let (token, rest) ←
      if name == "YAML".toList then readVersion start rest
      else if name == "TAG".toList then readTagExpansion start rest
      else faultAt rest .unknownDirective .scanningDirective start
    let rest ← skipComment rest
    if rest.lineEnd then .ok (token, ← rest.skipBreak)
    else faultAt rest .noLineEnd .scanningDirective start

end CompletionService.Yaml
