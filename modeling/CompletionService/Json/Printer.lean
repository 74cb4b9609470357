import CompletionService.Json.Value
import CompletionService.Number.Decimal

/-!
# JSON texts

`Json.write` gives the compact text of a value: no space anywhere, members in their order. A string
is escaped only where JSON demands it. A record whose members are texts already is set by
`writeMembers`, so that a number of single precision can be written with its own digits.
-/

namespace CompletionService.Json

open Number

/-- Two hexadecimal digits. -/
def hexPair (n : Nat) : List Char :=
  [Nat.digitChar (n / 16 % 16), Nat.digitChar (n % 16)]

/-- One character inside a JSON string. -/
def escapeChar (c : Char) : List Char :=
  match c with
  | '"' => ['\\', '"']
  | '\\' => ['\\', '\\']
  | '\x08' => ['\\', 'b']
  | '\x0C' => ['\\', 'f']
  | '\n' => ['\\', 'n']
  | '\r' => ['\\', 'r']
  | '\t' => ['\\', 't']
  | c => if c.toNat < 0x20 then '\\' :: 'u' :: '0' :: '0' :: hexPair c.toNat else [c]

/-- A JSON string. -/
def writeString (s : String) : List Char := '"' :: (s.toList.flatMap escapeChar ++ ['"'])

/-- The decimal digits of an integer, with its sign. -/
def writeInt (n : Int) : List Char :=
  if n < 0 then '-' :: Nat.toDigits 10 n.natAbs else Nat.toDigits 10 n.natAbs

/-- A number of any precision; an infinity is written as `null`. -/
def writeBinary {f : Format} : Binary f → List Char
  | .finite x => x.write (jsonLayout f)
  | .infinite _ => "null".toList

/-- Texts with commas between them. -/
def commaSeparated : List (List Char) → List Char
  | [] => []
  | [item] => item
  | item :: rest => item ++ ',' :: commaSeparated rest

/-- An array of texts. -/
def writeItems (items : List (List Char)) : List Char := '[' :: (commaSeparated items ++ [']'])

/-- An object whose members are texts. -/
def writeMembers (members : List (String × List Char)) : List Char :=
  '{' :: (commaSeparated (members.map fun (key, value) => writeString key ++ ':' :: value) ++ ['}'])

mutual

/-- The compact text of a value. -/
def write : Json → List Char
  | .null => "null".toList
  | .boolean b => if b then "true".toList else "false".toList
  | .whole n => writeInt n.val
  | .float x => x.write (jsonLayout binary64)
  | .string s => writeString s
  | .array items => writeItems (writeEach items)
  | .object members => writeMembers (writeValues members)

/-- The texts of several values. -/
def writeEach : List Json → List (List Char)
  | [] => []
  | item :: rest => item.write :: writeEach rest

/-- The members with the texts of their values. -/
def writeValues : List (String × Json) → List (String × List Char)
  | [] => []
  | (key, value) :: rest => (key, value.write) :: writeValues rest

end

/-- The compact text of a value. -/
def text (j : Json) : String := String.ofList j.write

end CompletionService.Json
