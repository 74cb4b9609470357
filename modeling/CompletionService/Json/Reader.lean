import CompletionService.Json.Fault
import CompletionService.Text.Digit

/-!
# Reading JSON texts

`Json.parse` reads a text as one value. Below it are readers, functions from the unread characters
to a value and the characters that are left, or to the fault at which they stop:

* tokens — white space, identifiers, strings, numbers;
* loops — `readItems` and `readMembers` run a reader over the inside of an array or an object;
* values — `readValue`, by recursion on how many containers may still be opened.

Every reader takes a bound on the number of steps, which the length of the text meets. At most 127
containers may be open at a time.

A number with a fraction or an exponent is not the nearest one to its decimal form: the digits are
collected below `2 ^ 64`, rounded, and then multiplied or divided once by a rounded power of ten.
-/

namespace CompletionService.Json

open Text Number

-- a power is that of the core library, whatever else is imported
attribute [local instance (high)] instPowNat

/-! ## White space and identifiers -/

/-- Space, tab and line ends. -/
def isBlank (c : Char) : Bool := c == ' ' || c == '\t' || c == '\n' || c == '\r'

/-- What is left after white space. -/
def skipBlank (cs : List Char) : List Char := cs.dropWhile isBlank

/-- Stops at a character that was taken for another one: one byte of it counts as read. -/
def stopInside (fault : SyntaxFault) (cs : List Char) : Fault :=
  ⟨.form fault, byteLength cs - 1⟩

/-- What is left after an expected word. -/
def readWord : List Char → List Char → Except Fault (List Char)
  | [], cs => .ok cs
  | _ :: _, [] => .error (.here .endInValue [])
  | w :: word, c :: cs =>
    if c = w then readWord word cs else .error (stopInside .expectedIdentifier (c :: cs))

/-! ## Strings -/

/-- Four hexadecimal digits. Where four bytes follow that are no such digits, they count as read;
where fewer follow, the text ends in the string. -/
def readHex (cs : List Char) : Except Fault (Nat × List Char) :=
  match Text.number? 16 (cs.take 4), decide (4 ≤ (cs.take 4).length) with
  | some n, true => .ok (n, cs.drop 4)
  | _, _ =>
    if 4 ≤ byteLength (cs.take 4) then .error ⟨.form .invalidEscape, byteLength cs - 4⟩
    else .error (.here .endInString [])

/-- The first half of a surrogate pair. -/
def isLeading (n : Nat) : Bool := 0xD800 ≤ n && n ≤ 0xDBFF

/-- The second half of a surrogate pair. -/
def isTrailing (n : Nat) : Bool := 0xDC00 ≤ n && n ≤ 0xDFFF

/-- The second half of a surrogate pair, as an escape of its own. -/
def readTrailing (leading : Nat) : List Char → Except Fault (Char × List Char)
  | [] => .error (.here .endInString [])
  | '\\' :: rest =>
    match rest with
    | [] => .error (.here .endInString [])
    | 'u' :: rest => do
      let (trailing, rest) ← readHex rest
      if isTrailing trailing then
        .ok (Char.ofNat ((leading - 0xD800) * 0x400 + (trailing - 0xDC00) + 0x10000), rest)
      else .error (.here .loneSurrogate rest)
    | c :: rest => .error (stopInside .unfinishedSurrogatePair (c :: rest))
  | c :: rest => .error (stopInside .unfinishedSurrogatePair (c :: rest))

/-- The character that an escape stands for, after the backslash. -/
def readEscape : List Char → Except Fault (Char × List Char)
  | [] => .error (.here .endInString [])
  | 'u' :: rest => do
    let (n, rest) ← readHex rest
    if isTrailing n then .error (.here .loneSurrogate rest)
    else if isLeading n then readTrailing n rest
    else .ok (Char.ofNat n, rest)
  | c :: rest =>
    match c with
    | '"' => .ok ('"', rest)
    | '\\' => .ok ('\\', rest)
    | '/' => .ok ('/', rest)
    | 'b' => .ok ('\x08', rest)
    | 'f' => .ok ('\x0C', rest)
    | 'n' => .ok ('\n', rest)
    | 'r' => .ok ('\r', rest)
    | 't' => .ok ('\t', rest)
    | c => .error (stopInside .invalidEscape (c :: rest))

/-- The rest of a string, after `before`, which is held in reverse. -/
def readStringFrom :
    (steps : Nat) → (before : List Char) → List Char → Except Fault (String × List Char)
  | 0, _, cs => .error (.here .endInString cs)
  | _ + 1, _, [] => .error (.here .endInString [])
  | steps + 1, before, c :: cs =>
    if c = '"' then .ok (String.ofList before.reverse, cs)
    else if c = '\\' then do
      let (e, rest) ← readEscape cs
      readStringFrom steps (e :: before) rest
    else if c.toNat < 0x20 then .error (.here .controlCharacter cs)
    else readStringFrom steps (c :: before) cs

/-- A string, after its opening quote. -/
def readString (steps : Nat) (cs : List Char) : Except Fault (String × List Char) :=
  readStringFrom steps [] cs

/-! ## Numbers -/

/-- The power of ten of double precision. -/
def powerOfTen (exponent : Nat) : Finite binary64 :=
  match Binary.ofDecimal binary64 false 1 exponent with
  | .finite x => x
  | .infinite _ => .zero _

/-- A number of double precision times `10 ^ exponent`, in the steps that are rounded one by one:
below `10 ^ -308` it is first divided by `10 ^ 308`, as often as that takes. Nothing, if the result
is out of range. -/
def scaleByTen : (steps : Nat) → Finite binary64 → Int → Option (Finite binary64)
  | 0, x, _ => some x
  | steps + 1, x, exponent =>
    if exponent.natAbs ≤ 308 then
      if exponent < 0 then (x.div (powerOfTen exponent.natAbs)).finite?
      else (x.mul (powerOfTen exponent.natAbs)).finite?
    else if x.units = 0 then some x
    else if 0 ≤ exponent then none
    else match x.div (powerOfTen 308) with
      | .finite y => scaleByTen steps y (exponent + 308)
      | .infinite _ => none

/-- The number with the given digits times `10 ^ exponent`. -/
def floatOf (negative : Bool) (significand : Nat) (exponent : Int) (cs : List Char) :
    Except Fault (Json × List Char) :=
  let scaled := match Binary.ofInt binary64 significand with
    | .finite x => scaleByTen 4 x exponent
    | .infinite _ => none
  match scaled with
  | some x => .ok (.float { x with negative }, cs)
  | none => .error (.here .numberOutOfRange cs)

/-- The value of a digit. -/
def digitValue (c : Char) : Nat := c.toNat - '0'.toNat

/-- The text goes on with a digit. -/
def startsWithDigit : List Char → Bool
  | [] => false
  | c :: _ => c.isDigit

/-- Appends digits to a numeral as long as the result stays below the limit: the numeral, the
number of digits taken, and what is left. -/
def takeDigits (limit : Nat) : (numeral count : Nat) → List Char → Nat × Nat × List Char
  | numeral, count, [] => (numeral, count, [])
  | numeral, count, c :: cs =>
    if c.isDigit then
      let next := numeral * 10 + digitValue c
      if next < limit then takeDigits limit next (count + 1) cs else (numeral, count, c :: cs)
    else (numeral, count, c :: cs)

/-- The limit of significands. -/
def significandLimit : Nat := 2 ^ (64 : Nat)

/-- The exponent, after its letter, of a number with the given digits times `10 ^ shift`. An
exponent that takes more than 31 bits makes the number zero or puts it out of range. -/
def readExponent (negative : Bool) (significand : Nat) (shift : Int) (cs : List Char) :
    Except Fault (Json × List Char) :=
  let (down, cs) := match cs with
    | '+' :: rest => (false, rest)
    | '-' :: rest => (true, rest)
    | cs => (false, cs)
  match cs with
  | [] => .error (.here .endInValue [])
  | c :: rest =>
    if !c.isDigit then .error (stopInside .invalidNumber cs)
    else
      let (exponent, _, rest) := takeDigits (2 ^ (31 : Nat)) (digitValue c) 1 rest
      if startsWithDigit rest then
        if significand ≠ 0 ∧ !down then .error (.here .numberOutOfRange (rest.drop 1))
        else .ok (.float { Finite.zero binary64 with negative }, rest.dropWhile Char.isDigit)
      else floatOf negative significand (if down then shift - exponent else shift + exponent) rest

/-- What may follow the digits of a number that is not whole: an exponent, or nothing. -/
def readScale (negative : Bool) (significand : Nat) (shift : Int) :
    List Char → Except Fault (Json × List Char)
  | 'e' :: rest | 'E' :: rest => readExponent negative significand shift rest
  | cs => floatOf negative significand shift cs

/-- The fraction of a number, after the decimal point. Digits that the significand has no room for
are dropped. -/
def readFraction (negative : Bool) (significand : Nat) (shift : Int) (cs : List Char) :
    Except Fault (Json × List Char) :=
  let (significand, count, rest) := takeDigits significandLimit significand 0 cs
  if startsWithDigit rest then
    readScale negative significand (shift - count) (rest.dropWhile Char.isDigit)
  else if count = 0 then
    .error (.atNext (if rest.isEmpty then .endInValue else .invalidNumber) rest)
  else readScale negative significand (shift - count) rest

/-- A number whose whole part has been read. Zero with a minus sign, and what lies below `-2 ^ 63`,
is not a whole number. -/
def readAfterWhole (negative : Bool) (significand : Nat) :
    List Char → Except Fault (Json × List Char)
  | '.' :: rest => readFraction negative significand 0 rest
  | 'e' :: rest | 'E' :: rest => readExponent negative significand 0 rest
  | cs =>
    let whole? := if negative ∧ significand = 0 then none
      else Whole.ofInt? (if negative then -significand else significand)
    match whole? with
    | some n => .ok (.whole n, cs)
    | none => floatOf negative significand 0 cs

/-- A number whose whole part has more digits than the significand has room for; the others only
count. -/
def readLong (negative : Bool) (significand : Nat) (cs : List Char) :
    Except Fault (Json × List Char) :=
  let dropped := (cs.takeWhile Char.isDigit).length
  match cs.dropWhile Char.isDigit with
  | '.' :: rest => readFraction negative significand dropped rest
  | rest => readScale negative significand dropped rest

/-- A number, after its sign. -/
def readNumber (negative : Bool) : List Char → Except Fault (Json × List Char)
  | [] => .error (.here .endInValue [])
  | c :: rest =>
    if c = '0' then
      if startsWithDigit rest then .error (.atNext .invalidNumber rest)
      else readAfterWhole negative 0 rest
    else if c.isDigit then
      let (significand, _, rest) := takeDigits significandLimit (digitValue c) 1 rest
      if startsWithDigit rest then readLong negative significand rest
      else readAfterWhole negative significand rest
    else .error (stopInside .invalidNumber (c :: rest))

/-! ## The inside of containers -/

/-- The items of an array up to its bracket, which is left, after those of `before`, held in
reverse. -/
def readItemsFrom {α : Type} (item : List Char → Except Fault (α × List Char)) :
    (steps : Nat) → (before : List α) → List Char → Except Fault (List α × List Char)
  | 0, _, cs => .error (.here .endInArray cs)
  | steps + 1, before, cs =>
    let next (cs : List Char) : Except Fault (List α × List Char) := do
      let (a, rest) ← item cs
      readItemsFrom item steps (a :: before) rest
    match skipBlank cs with
    | [] => .error (.atNext .endInArray [])
    | ']' :: rest => .ok (before.reverse, ']' :: rest)
    | c :: rest =>
      if before.isEmpty then next (c :: rest)
      else if c = ',' then
        match skipBlank rest with
        | [] => .error (.atNext .endInValue [])
        | ']' :: rest => .error (.atNext .trailingComma (']' :: rest))
        | rest => next rest
      else .error (.atNext .expectedCommaOrBracket (c :: rest))

/-- What is left after the colon of a member. -/
def readColon (cs : List Char) : Except Fault (List Char) :=
  match skipBlank cs with
  | [] => .error (.atNext .endInObject [])
  | ':' :: rest => .ok rest
  | rest => .error (.atNext .expectedColon rest)

/-- Runs `member` over the members of an object, up to its brace, which is left. It gets the key and
what was collected so far, and reads from the colon on. -/
def readMembersFrom {σ : Type} (member : String → σ → List Char → Except Fault (σ × List Char)) :
    (steps : Nat) → (first : Bool) → σ → List Char → Except Fault (σ × List Char)
  | 0, _, _, cs => .error (.here .endInObject cs)
  | steps + 1, first, collected, cs =>
    let next (cs : List Char) : Except Fault (σ × List Char) := do
      let (key, rest) ← readString steps cs
      let (collected, rest) ← member key collected rest
      readMembersFrom member steps false collected rest
    match skipBlank cs with
    | [] => .error (.atNext .endInObject [])
    | '}' :: rest => .ok (collected, '}' :: rest)
    | c :: rest =>
      if first then
        if c = '"' then next rest else .error (.atNext .keyNotAString (c :: rest))
      else if c = ',' then
        match skipBlank rest with
        | [] => .error (.atNext .endInValue [])
        | '"' :: rest => next rest
        | '}' :: rest => .error (.atNext .trailingComma ('}' :: rest))
        | rest => .error (.atNext .keyNotAString rest)
      else .error (.atNext .expectedCommaOrBrace (c :: rest))

/-- Members of values that `value` reads, the last one first. -/
def collectMember (value : List Char → Except Fault (Json × List Char)) (key : String)
    (collected : List (String × Json)) (cs : List Char) :
    Except Fault (List (String × Json) × List Char) := do
  let rest ← readColon cs
  let (j, rest) ← value rest
  .ok ((key, j) :: collected, rest)

/-! ## Values -/

/-- A value. Inside it at most `depth` containers may be open at a time. -/
def readValue (steps : Nat) : (depth : Nat) → List Char → Except Fault (Json × List Char)
  | depth, cs =>
    match skipBlank cs with
    | [] => .error (.atNext .endInValue [])
    | c :: rest =>
      if c = 'n' then return (.null, ← readWord "ull".toList rest)
      else if c = 't' then return (.boolean true, ← readWord "rue".toList rest)
      else if c = 'f' then return (.boolean false, ← readWord "alse".toList rest)
      else if c = '-' then readNumber true rest
      else if c.isDigit then readNumber false (c :: rest)
      else if c = '"' then do
        let (s, rest) ← readString steps rest
        .ok (.string s, rest)
      else if c = '[' then
        match depth with
        | 0 => .error (.atNext .tooDeep (c :: rest))
        | depth + 1 => do
          let (items, rest) ← readItemsFrom (readValue steps depth) steps [] rest
          .ok (.array items, rest.drop 1)
      else if c = '{' then
        match depth with
        | 0 => .error (.atNext .tooDeep (c :: rest))
        | depth + 1 => do
          let (members, rest) ← readMembersFrom
            (collectMember (readValue steps depth)) steps true [] rest
          .ok (.object (Members.ofList members.reverse), rest.drop 1)
      else .error (.atNext .expectedValue (c :: rest))

/-- How many containers may be open at a time. -/
def depthLimit : Nat := 127

/-- Nothing but white space is left. -/
def readEnd (cs : List Char) : Except Fault Unit :=
  match skipBlank cs with
  | [] => .ok ()
  | rest => .error (.atNext .trailingCharacters rest)

/-- A bound on the steps of reading a text. -/
def stepsFor (cs : List Char) : Nat := cs.length + 1

/-- The characters of a text as one value. -/
def parseChars (cs : List Char) : Except Fault Json := do
  let (j, rest) ← readValue (stepsFor cs) depthLimit cs
  readEnd rest
  return j

/-- A text as one value. -/
def parse (text : String) : Except Error Json :=
  match parseChars text.toList with
  | .ok j => .ok j
  | .error fault => .error (.ofFault fault text.toList)

end CompletionService.Json
