import CompletionService.Json.Mismatch
import CompletionService.Text.Digit
import CompletionService.Yaml.Node

/-!
# What scalars mean

A plain scalar without a tag means what it looks like: nothing, a truth value, a number, or else its
own text. A tag of the core schema asks for one of these, and a tag of any other kind, like quotes,
keeps the text.
-/

namespace CompletionService.Yaml

open Number

-- a power is that of the core library, whatever else is imported
attribute [local instance (high)] instPowNat

/-- What a scalar means. -/
inductive Meaning
  | null
  | boolean (b : Bool)
  | integer (n : Int)
  /-- a real number; `none` is what is no number -/
  | real (x : Option (Binary binary64))
  | text (s : String)

/-! ## Looks -/

/-- Looks like nothing. -/
def isNull (s : String) : Bool := ["~", "null", "Null", "NULL"].contains s

/-- The truth value that a text looks like. -/
def boolean? (s : String) : Option Bool :=
  if ["true", "True", "TRUE"].contains s then some true
  else if ["false", "False", "FALSE"].contains s then some false
  else none

/-- Digits of a base as a number; there must be one. -/
def natural? (base : Nat) (digits : List Char) : Option Nat :=
  if digits.isEmpty then none else Text.number? base digits

/-- Several digits that start with a zero are no number, whatever their sign. -/
def hasIdleZero (cs : List Char) : Bool :=
  let digits := match cs with
    | '-' :: rest | '+' :: rest => rest
    | cs => cs
  1 < digits.length && digits.head? == some '0' && digits.all Char.isDigit

/-- The number of digits without a sign: decimal, or with the mark of another base. -/
def magnitude? (cs : List Char) (idleZero : Bool) : Option Nat :=
  match cs with
  | '0' :: 'x' :: digits => natural? 16 digits
  | '0' :: 'o' :: digits => natural? 8 digits
  | '0' :: 'b' :: digits => natural? 2 digits
  | digits => if idleZero then none else natural? 10 digits

/-- The whole number of up to 128 bits that a text looks like. -/
def integer? (cs : List Char) : Option Int :=
  let idleZero := hasIdleZero cs
  match cs with
  | '-' :: rest => do
    let n ← magnitude? rest idleZero
    if n ≤ 2 ^ (127 : Nat) then some (-n) else none
  | '+' :: rest => below (magnitude? rest idleZero)
  | cs => below (magnitude? cs idleZero)
where
  below (n? : Option Nat) : Option Int := do
    let n ← n?
    if n < 2 ^ (128 : Nat) then some n else none

/-- A power of ten at the end of a numeral, which may have none. -/
def exponent? : List Char → Option Int
  | [] => some 0
  | e :: rest =>
    if e != 'e' && e != 'E' then none
    else match rest with
      | '-' :: digits => (natural? 10 digits).map (-·)
      | '+' :: digits | digits => (natural? 10 digits).map Int.ofNat

/-- The finite number next to `digits * 10 ^ exponent`. -/
def finiteDecimal? (negative : Bool) (digits : List Char) (exponent : Int) :
    Option (Finite binary64) :=
  let digits := digits.dropWhile (· = '0')
  let point := digits.length + exponent
  let zero : Finite binary64 := { Finite.zero binary64 with negative }
  match natural? 10 digits with
  | none => some zero
  | some n =>
    if 400 < point then none
    else if point < -400 then some zero
    else (Binary.ofDecimal binary64 negative n exponent).finite?

/-- The finite number that digits, a point and an exponent look like. -/
def decimal? (negative : Bool) (cs : List Char) : Option (Finite binary64) :=
  let whole := cs.takeWhile Char.isDigit
  let (fraction, rest) := match cs.dropWhile Char.isDigit with
    | '.' :: rest => (rest.takeWhile Char.isDigit, rest.dropWhile Char.isDigit)
    | rest => ([], rest)
  let digits := whole ++ fraction
  if digits.isEmpty then none
  else do finiteDecimal? negative digits ((← exponent? rest) - fraction.length)

/-- The real number that a text looks like. -/
def real? (s : String) : Option (Option (Binary binary64)) :=
  if [".inf", ".Inf", ".INF", "+.inf", "+.Inf", "+.INF"].contains s then
    some (some (.infinite false))
  else if ["-.inf", "-.Inf", "-.INF"].contains s then some (some (.infinite true))
  else if [".nan", ".NaN", ".NAN"].contains s then some none
  else
    let x? := match s.toList with
      | '-' :: cs => decimal? true cs
      | '+' :: cs => decimal? false cs
      | cs => decimal? false cs
    x?.map fun x => some (.finite x)

/-- What a plain scalar without a tag means. -/
def Meaning.ofPlain (s : String) : Meaning :=
  if s.isEmpty || isNull s then .null
  else match boolean? s with
    | some b => .boolean b
    | none =>
      match integer? s.toList with
      | some n => .integer n
      | none =>
        match if hasIdleZero s.toList then none else real? s with
        | some x => .real x
        | none => .text s

/-! ## Tags -/

/-- What a scalar means, or why it cannot mean what its tag asks for. -/
def Meaning.ofScalar (tag? : Option Tag) (s : String) (plain : Bool) :
    Except Mismatch Meaning :=
  let wanted (meaning? : Option Meaning) (words : String) : Except Mismatch Meaning :=
    match meaning? with
    | some meaning => .ok meaning
    | none => .error (.invalidValue (.string s) (.described words))
  match tag? with
  | none => .ok (if plain then .ofPlain s else .text s)
  | some tag =>
    if tag = Tag.core "bool" then wanted ((boolean? s).map .boolean) "a boolean"
    else if tag = Tag.core "int" then wanted ((integer? s.toList).map .integer) "an integer"
    else if tag = Tag.core "float" then wanted ((real? s).map .real) "a float"
    else if tag = Tag.core "null" then wanted (if isNull s then some .null else none) "null"
    else if tag.isLocal && plain then .ok (.ofPlain s)
    else .ok (.text s)

/-! ## Use -/

/-- The JSON value with this meaning. Infinities and what is no number become `null`. -/
def Meaning.toJson : Meaning → Except Mismatch Json
  | .null | .real none => .ok .null
  | .boolean b => .ok (.boolean b)
  | .integer n =>
    match Whole.ofInt? n with
    | some n => .ok (.whole n)
    | none => .error .numberTooLong
  | .real (some x) => .ok (.ofDouble x)
  | .text s => .ok (.string s)

/-- A real number in a message. -/
def realWords : Option (Binary binary64) → String
  | none => "NaN"
  | some (.infinite negative) => if negative then "-inf" else "inf"
  | some (.finite x) => String.ofList (x.write plainLayout)

/-- How a scalar with this meaning is named when it is not the wanted value. -/
def Meaning.found : Meaning → Found
  | .null => .described "unit value"
  | .boolean b => .boolean b
  | .integer n =>
    if -2 ^ (63 : Nat) ≤ n ∧ n < 2 ^ (64 : Nat) then .integer n
    else .described (s!"integer `{n}` as " ++ if n < 0 then "i128" else "u128")
  | .real x => .described ("floating point `" ++ realWords x ++ "`")
  | .text s => .string s

end CompletionService.Yaml
