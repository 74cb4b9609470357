import CompletionService.Json.Printer
import CompletionService.Text.Literal

/-!
# Values of the wrong type

What was found where a value of a certain type was wanted, as a cause with one wording. A mismatch
does not know where it was found; readers of texts add the place.
-/

namespace CompletionService

open Number

/-- What stands in the place of a wanted value. -/
inductive Found
  | null
  | boolean (b : Bool)
  | integer (n : Int)
  | float (x : Finite binary64)
  | string (s : String)
  | sequence
  | map
  /-- anything else, in the words of the format that it comes from -/
  | described (words : String)

/-- The wording of what was found. -/
def Found.words : Found → String
  | .null => "null"
  | .boolean b => if b then "boolean `true`" else "boolean `false`"
  | .integer n => "integer `" ++ String.ofList (Json.writeInt n) ++ "`"
  | .float x => "floating point `" ++ String.ofList (x.write (jsonLayout binary64)) ++ "`"
  | .string s => "string " ++ Text.quoted s
  | .sequence => "sequence"
  | .map => "map"
  | .described words => words

/-- How a JSON value is named when it is not the wanted one. -/
def Found.ofJson : Json → Found
  | .null => .null
  | .boolean b => .boolean b
  | .whole n => .integer n.val
  | .float x => .float x
  | .string s => .string s
  | .array _ => .sequence
  | .object _ => .map

/-- What is wanted of a value. -/
inductive Wanted
  /-- a natural number that can count things in memory -/
  | size
  | natural (bits : Nat)
  | integer (bits : Nat)
  | real (bits : Nat)
  | boolean
  | string
  | sequence
  | map
  | record (name : String)
  /-- anything else, in the words of the format -/
  | described (words : String)
  deriving DecidableEq

/-- The wording of what is wanted. -/
def Wanted.words : Wanted → String
  | .size => "usize"
  | .natural bits => s!"u{bits}"
  | .integer bits => s!"i{bits}"
  | .real bits => s!"f{bits}"
  | .boolean => "a boolean"
  | .string => "a string"
  | .sequence => "a sequence"
  | .map => "a map"
  | .record name => s!"struct {name}"
  | .described words => words

/-- Why a value is not one of the wanted type. -/
inductive Mismatch
  | invalidType (found : Found) (wanted : Wanted)
  | invalidValue (found : Found) (wanted : Wanted)
  /-- a sequence that ends before the last of the `fields` of a record -/
  | tooShort (length : Nat) (record : String) (fields : Nat)
  | missingField (name : String)
  | duplicateField (name : String)
  /-- a value that is none of the alternatives of the choice `name` -/
  | noAlternative (name : String)
  /-- a whole number that no JSON number holds exactly -/
  | numberTooLong
  /-- a value that is no record, where fields were to be replaced -/
  | notARecord (value : Json)

/-- The wording of a mismatch. -/
def Mismatch.message : Mismatch → String
  | .invalidType found wanted => s!"invalid type: {found.words}, expected {wanted.words}"
  | .invalidValue found wanted => s!"invalid value: {found.words}, expected {wanted.words}"
  | .tooShort length record fields =>
    let noun := if fields = 1 then "element" else "elements"
    s!"invalid length {length}, expected struct {record} with {fields} {noun}"
  | .missingField name => s!"missing field `{name}`"
  | .duplicateField name => s!"duplicate field `{name}`"
  | .noAlternative name => s!"data did not match any variant of untagged enum {name}"
  | .numberTooLong => "JSON number out of range"
  | .notARecord value => s!"expected a struct with named fields, got {value.text}"

end CompletionService
