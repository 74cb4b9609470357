import CompletionService.Json.Reader

/-!
# Passing over a value

The value of a field that a record does not have is passed over without being built. What is
checked is less than in reading: numbers may be out of range, surrogates need no partner, and any
number of containers may be open. The containers that are open are held in a list, the innermost
first.
-/

namespace CompletionService.Json

open Text

/-- A container that is being passed over. -/
inductive Container
  | array
  | object
  deriving DecidableEq

/-- What is left after a string, whose opening quote has been read. Escapes only have to be well
formed. -/
def skipStringFrom : (steps : Nat) → List Char → Except Fault (List Char)
  | 0, cs => .error (.here .endInString cs)
  | _ + 1, [] => .error (.here .endInString [])
  | steps + 1, c :: cs =>
    if c = '"' then .ok cs
    else if c = '\\' then
      match cs with
      | [] => .error (.here .endInString [])
      | 'u' :: rest => do
        let (_, rest) ← readHex rest
        skipStringFrom steps rest
      | e :: rest => do
        let _ ← readEscape (e :: rest)
        skipStringFrom steps rest
    else if c.toNat < 0x20 then .error (.here .controlCharacter (c :: cs))
    else skipStringFrom steps cs

/-- What is left after the exponent of a number, its letter having been read. -/
def skipExponent (cs : List Char) : Except Fault (List Char) :=
  let cs := match cs with
    | '+' :: rest | '-' :: rest => rest
    | cs => cs
  if startsWithDigit cs then .ok (cs.dropWhile Char.isDigit)
  else .error (stopInside .invalidNumber cs)

/-- What is left after a number, its sign having been read. -/
def skipNumber (cs : List Char) : Except Fault (List Char) :=
  let scale : List Char → Except Fault (List Char)
    | 'e' :: rest | 'E' :: rest => skipExponent rest
    | cs => .ok cs
  let afterWhole : List Char → Except Fault (List Char)
    | '.' :: rest =>
      if startsWithDigit rest then scale (rest.dropWhile Char.isDigit)
      else .error (.atNext .invalidNumber rest)
    | cs => scale cs
  match cs with
  | '0' :: rest =>
    if startsWithDigit rest then .error (.atNext .invalidNumber rest) else afterWhole rest
  | cs =>
    if startsWithDigit cs then afterWhole (cs.dropWhile Char.isDigit)
    else .error (stopInside .invalidNumber cs)

/-- What is left after a key and its colon. -/
def skipKey (steps : Nat) (cs : List Char) : Except Fault (List Char) :=
  match skipBlank cs with
  | [] => .error (.atNext .endInObject [])
  | '"' :: rest => do readColon (← skipStringFrom steps rest)
  | rest => .error (.atNext .keyNotAString rest)

/-- After a value, or a bracket that opens a container: closes the containers that end here. Either
all are closed, or another value comes, before which the key is passed over if it has one. The
innermost container is `inner`; `afterValue` tells whether a value stands before. -/
def skipBetween (keySteps : Nat) : (steps : Nat) → (afterValue : Bool) → Container →
    List Container → List Char → Except Fault (List Container × List Char)
  | 0, _, _, _, cs => .error (.here .endInValue cs)
  | steps + 1, afterValue, inner, outer, cs =>
    let value (cs : List Char) : Except Fault (List Container × List Char) :=
      match inner with
      | .array => .ok (inner :: outer, cs)
      | .object => do return (inner :: outer, ← skipKey keySteps cs)
    let close (cs : List Char) : Except Fault (List Container × List Char) :=
      match outer with
      | [] => .ok ([], cs)
      | next :: outer => skipBetween keySteps steps true next outer cs
    match skipBlank cs, inner with
    | [], .array => .error (.atNext .endInArray [])
    | [], .object => .error (.atNext .endInObject [])
    | ']' :: rest, .array => close rest
    | '}' :: rest, .object => close rest
    | c :: rest, inner =>
      if !afterValue then value (c :: rest)
      else if c = ',' then value rest
      else match inner with
        | .array => .error (.atNext .expectedCommaOrBracket (c :: rest))
        | .object => .error (.atNext .expectedCommaOrBrace (c :: rest))

/-- What is left after a value inside the open containers, and after all of them. -/
def skipFrom (total : Nat) : (steps : Nat) → List Container → List Char → Except Fault (List Char)
  | 0, _, cs => .error (.here .endInValue cs)
  | steps + 1, containers, cs => do
    let continued (containers : List Container) (cs : List Char) : Except Fault (List Char) :=
      match containers with
      | [] => .ok cs
      | containers => skipFrom total steps containers cs
    let leaf (cs : List Char) : Except Fault (List Char) :=
      match containers with
      | [] => .ok cs
      | inner :: outer => do
        let (containers, rest) ← skipBetween total total true inner outer cs
        continued containers rest
    match skipBlank cs with
    | [] => .error (.atNext .endInValue [])
    | c :: rest =>
      if c = 'n' then leaf (← readWord "ull".toList rest)
      else if c = 't' then leaf (← readWord "rue".toList rest)
      else if c = 'f' then leaf (← readWord "alse".toList rest)
      else if c = '-' then leaf (← skipNumber rest)
      else if c.isDigit then leaf (← skipNumber (c :: rest))
      else if c = '"' then leaf (← skipStringFrom total rest)
      else if c = '[' then do
        let (containers, rest) ← skipBetween total total false .array containers rest
        continued containers rest
      else if c = '{' then do
        let (containers, rest) ← skipBetween total total false .object containers rest
        continued containers rest
      else .error (.atNext .expectedValue (c :: rest))

/-- What is left after a value. -/
def skipValue (steps : Nat) (cs : List Char) : Except Fault (List Char) :=
  skipFrom steps steps [] cs

end CompletionService.Json
