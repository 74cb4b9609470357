import CompletionService.Json.Mismatch

/-!
# Typed values from JSON

One function per type: the value that a JSON value stands for, or what is wrong with it. Whole
numbers stand for numbers of any kind that has room for them; other numbers only for reals.
-/

namespace CompletionService.Decode

open Number

-- a power is that of the core library, whatever else is imported
attribute [local instance (high)] instPowNat

variable {α : Type}

/-- The mismatch of a value of another type. -/
def wrongType (j : Json) (wanted : Wanted) : Except Mismatch α :=
  .error (.invalidType (.ofJson j) wanted)

/-- A whole number in the range of the wanted type. -/
def wholeIn (lower upper : Int) (wanted : Wanted) (j : Json) : Except Mismatch Int :=
  match j with
  | .whole n =>
    if lower ≤ n.val ∧ n.val < upper then .ok n.val
    else .error (.invalidValue (.integer n.val) wanted)
  | j => wrongType j wanted

/-- A natural number that can count things in memory. -/
def size (j : Json) : Except Mismatch UInt64 :=
  return .ofNat (← wholeIn 0 (2 ^ (64 : Nat)) .size j).toNat

/-- A 64-bit natural number. -/
def natural64 (j : Json) : Except Mismatch UInt64 :=
  return .ofNat (← wholeIn 0 (2 ^ (64 : Nat)) (.natural 64) j).toNat

/-- A 32-bit natural number. -/
def natural32 (j : Json) : Except Mismatch UInt32 :=
  return .ofNat (← wholeIn 0 (2 ^ (32 : Nat)) (.natural 32) j).toNat

/-- A 32-bit integer. -/
def integer32 (j : Json) : Except Mismatch Int32 :=
  return .ofInt (← wholeIn (-2 ^ (31 : Nat)) (2 ^ (31 : Nat)) (.integer 32) j)

/-- A 64-bit integer. -/
def integer64 (j : Json) : Except Mismatch Int64 :=
  return .ofInt (← wholeIn (-2 ^ (63 : Nat)) (2 ^ (63 : Nat)) (.integer 64) j)

/-- A number of single precision, the one next to the given number. -/
def real32 : Json → Except Mismatch (Binary binary32)
  | .whole n => .ok (.ofInt binary32 n.val)
  | .float x => .ok (x.convert binary32)
  | j => wrongType j (.real 32)

/-- A number of double precision, the one next to the given number. -/
def real64 : Json → Except Mismatch (Binary binary64)
  | .whole n => .ok (.ofInt binary64 n.val)
  | .float x => .ok (.finite x)
  | j => wrongType j (.real 64)

/-- A truth value. -/
def boolean : Json → Except Mismatch Bool
  | .boolean b => .ok b
  | j => wrongType j .boolean

/-- A text. -/
def string : Json → Except Mismatch String
  | .string s => .ok s
  | j => wrongType j .string

/-- `null`, or a value of the wanted type. -/
def nullable (decode : Json → Except Mismatch α) : Json → Except Mismatch (Option α)
  | .null => .ok none
  | j => some <$> decode j

/-- The items of a sequence, each of the wanted type; the first mismatch counts. -/
def items (decode : Json → Except Mismatch α) : List Json → Except Mismatch (List α)
  | [] => .ok []
  | j :: rest => do
    let item ← decode j
    return item :: (← items decode rest)

/-- A sequence of values of the wanted type. -/
def list (decode : Json → Except Mismatch α) : Json → Except Mismatch (List α)
  | .array js => items decode js
  | j => wrongType j .sequence

/-- One text, several texts, or none: a text stands for the list of itself and `null` for the empty
list. -/
def oneOrMany : Json → Except Mismatch (List String)
  | .string s => .ok [s]
  | .null => .ok []
  | .array js =>
    match items string js with
    | .ok texts => .ok texts
    | .error _ => .error (.noAlternative "OneOrMany")
  | _ => .error (.noAlternative "OneOrMany")

/-- The members of an object. -/
def members (wanted : Wanted) : Json → Except Mismatch Members
  | .object fields => .ok fields
  | j => wrongType j wanted

/-- The value of a field that must be there. -/
def field (fields : Members) (name : String) (decode : Json → Except Mismatch α) :
    Except Mismatch α :=
  match fields.get? name with
  | some j => decode j
  | none => .error (.missingField name)

/-- The value of a field that is `none` when it is not there. -/
def optionalField (fields : Members) (name : String) (decode : Json → Except Mismatch α) :
    Except Mismatch (Option α) :=
  match fields.get? name with
  | some j => nullable decode j
  | none => .ok none

end CompletionService.Decode
