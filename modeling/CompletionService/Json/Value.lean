import CompletionService.Number.Binary

/-!
# JSON values

A JSON value, with its two kinds of number kept apart: whole numbers are exact between `-2 ^ 63` and
`2 ^ 64 - 1`, every other number is a finite number of double precision.

The members of an object are a list of key and value. An object that was read, or that is built by
`Members.ofList`, holds each key once, the keys ascending by code point; `Members.get?` and
`Members.overlay` are defined for any list.
-/

namespace CompletionService

open Number

-- a power is that of the core library, whatever else is imported
attribute [local instance (high)] instPowNat

/-- A whole number that a JSON number holds exactly. -/
structure Whole where
  val : Int
  lower : -2 ^ (63 : Nat) ≤ val
  upper : val < 2 ^ (64 : Nat)
  deriving DecidableEq

namespace Whole

/-- The whole number, if it is in range. -/
def ofInt? (n : Int) : Option Whole :=
  if h : -2 ^ (63 : Nat) ≤ n ∧ n < 2 ^ (64 : Nat) then some ⟨n, h.1, h.2⟩ else none

/-- A 64-bit natural number. -/
def ofUInt64 (n : UInt64) : Whole :=
  ⟨n.toNat, by omega, by have := n.toNat_lt; omega⟩

/-- A 32-bit natural number. -/
def ofUInt32 (n : UInt32) : Whole :=
  ⟨n.toNat, by omega, by have := n.toNat_lt; omega⟩

/-- A 32-bit integer. -/
def ofInt32 (n : Int32) : Whole :=
  ⟨n.toInt, by have := n.le_toInt; omega, by have := n.toInt_lt; omega⟩

/-- A 64-bit integer. -/
def ofInt64 (n : Int64) : Whole :=
  ⟨n.toInt, by have := n.le_toInt; omega, by have := n.toInt_lt; omega⟩

end Whole

/-- A JSON value. -/
inductive Json
  | null
  | boolean (b : Bool)
  /-- a whole number -/
  | whole (n : Whole)
  /-- any other number -/
  | float (x : Finite binary64)
  | string (s : String)
  | array (items : List Json)
  | object (members : List (String × Json))

instance : Inhabited Json := ⟨.null⟩

/-- The members of an object. -/
abbrev Members := List (String × Json)

namespace Json

/-- The text, if the value is one. -/
def string? : Json → Option String
  | .string s => some s
  | _ => none

/-- A 64-bit natural number as a value. -/
def ofUInt64 (n : UInt64) : Json := .whole (.ofUInt64 n)

/-- A 32-bit natural number as a value. -/
def ofUInt32 (n : UInt32) : Json := .whole (.ofUInt32 n)

/-- A 32-bit integer as a value. -/
def ofInt32 (n : Int32) : Json := .whole (.ofInt32 n)

/-- A number of double precision as a value. JSON has no number for an infinity: it becomes
`null`. -/
def ofDouble : Binary binary64 → Json
  | .finite x => .float x
  | .infinite _ => .null

/-- A number of single precision as a value: the equal one of double precision. -/
def ofSingle : Binary binary32 → Json
  | .finite x => ofDouble (x.convert binary64)
  | .infinite _ => .null

/-- A value that may be absent, which `null` stands for. -/
def ofOption {α : Type} (toJson : α → Json) : Option α → Json
  | none => .null
  | some a => toJson a

/-- Several texts. -/
def ofStrings (texts : List String) : Json := .array (texts.map .string)

end Json

namespace Members

/-- The value of a key. -/
def get? (members : Members) (key : String) : Option Json := members.lookup key

/-- The members with one more at its place among ascending keys, unless the key is there already. -/
def insertNew (key : String) (value : Json) : Members → Members
  | [] => [(key, value)]
  | (k, v) :: rest =>
    if key < k then (key, value) :: (k, v) :: rest
    else if key = k then (k, v) :: rest
    else (k, v) :: insertNew key value rest

/-- The members with ascending keys; of several with one key the last counts. -/
def ofList (members : List (String × Json)) : Members :=
  members.foldr (fun (key, value) rest => insertNew key value rest) []

/-- The members, where every key that `overrides` has takes the value it has there. No key is
added. -/
def overlay (members overrides : Members) : Members :=
  members.map fun (key, value) => (key, (overrides.get? key).getD value)

/-- The members without a key. -/
def erase (members : Members) (key : String) : Members := members.filter (·.1 != key)

@[simp] theorem get?_nil (key : String) : Members.get? [] key = none := rfl

/-- The first member with a key counts. -/
theorem get?_cons (k key : String) (v : Json) (rest : Members) :
    Members.get? ((k, v) :: rest) key = if key = k then some v else Members.get? rest key := by
  by_cases h : key = k
  · simp [get?, h]
  · have : (key == k) = false := by simpa using h
    simp [get?, List.lookup_cons, h, this]

end Members

end CompletionService
