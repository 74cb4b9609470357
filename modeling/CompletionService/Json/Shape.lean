import CompletionService.Json.Skip
import CompletionService.Json.Decode

/-!
# Reading values of a given shape

A `Shape` reads a value of a certain type straight from a text, so that the first fault of either
kind, in form or in type, is the one that is reported, and at its place. What it gives is the value
with the members of records completed and in order; turning that into a typed value cannot fail for
another reason than the ones checked here.

A mismatch inside a value is placed where the value ends. A mismatch of a record as a whole — a
field that is missing, or there twice, or a sequence that is too short — is placed behind the
record's bracket, or where the bracket was looked for.
-/

namespace CompletionService.Json

open Text

/-- Reads a value of some type, with a bound on the steps and one on the containers still to be
opened. -/
abbrev Shape := (steps depth : Nat) → List Char → Except Fault (Json × List Char)

namespace Shape

variable {α : Type}

/-- Any value. -/
def any : Shape := readValue

/-- A value without parts, of the type that `check` decodes; a container in its place is not read.
-/
def scalar (check : Json → Except Mismatch α) : Shape := fun steps _ cs => do
  let (j, rest) ← match skipBlank cs with
    | '[' :: rest => .ok (.array [], '[' :: rest)
    | '{' :: rest => .ok (.object [], '{' :: rest)
    | cs => readValue steps 0 cs
  match check j with
  | .ok _ => .ok (j, rest)
  | .error mismatch => .error (.ofMismatch mismatch rest)

/-- `null`, or a value of the shape. -/
def nullable (shape : Shape) : Shape := fun steps depth cs =>
  match skipBlank cs with
  | 'n' :: rest => return (.null, ← readWord "ull".toList rest)
  | cs => shape steps depth cs

/-- A sequence of values of the shape. -/
def list (shape : Shape) : Shape := fun steps depth cs =>
  match skipBlank cs, depth with
  | '[' :: rest, 0 => .error (.atNext .tooDeep ('[' :: rest))
  | '[' :: rest, depth + 1 => do
    let (items, rest) ← readItemsFrom (shape steps depth) steps [] rest
    .ok (.array items, rest.drop 1)
  | cs, depth => scalar (Decode.list (α := Unit) fun _ => .ok ()) steps depth cs

/-- An object whose values have the shape. -/
def map (shape : Shape) : Shape := fun steps depth cs =>
  match skipBlank cs, depth with
  | '{' :: rest, 0 => .error (.atNext .tooDeep ('{' :: rest))
  | '{' :: rest, depth + 1 => do
    let (members, rest) ← readMembersFrom (collectMember (shape steps depth)) steps true [] rest
    .ok (.object (Members.ofList members.reverse), rest.drop 1)
  | cs, depth => scalar (Decode.members .map) steps depth cs

/-! ## Records -/

/-- What a field that is not there counts as. -/
inductive Absent
  /-- it must be there -/
  | required
  /-- it is `null`; in the form of a sequence it must be there -/
  | null
  /-- it has a default -/
  | default (value : Json)

/-- A field of a record. -/
structure Field where
  name : String
  shape : Shape
  absent : Absent := .required
  /-- a condition on the value that counts as one on the record -/
  accept : Json → Except Mismatch Unit := fun _ => .ok ()

/-- The place of a mismatch of a record in the form of an object, which stopped at `cs`. -/
def afterBrace (cs : List Char) : List Char :=
  match skipBlank cs with
  | '}' :: rest => rest
  | rest => rest

/-- The place of a mismatch of a record in the form of a sequence, which stopped at `cs`. -/
def afterBracket (cs : List Char) : List Char :=
  match skipBlank cs with
  | ']' :: rest => rest
  | ',' :: rest => skipBlank rest
  | rest => rest

/-- One member of a record: of a field it has it takes the value, others are passed over. -/
def recordMember (fields : List Field) (steps depth : Nat) (key : String)
    (collected : List (String × Json)) (cs : List Char) :
    Except Fault (List (String × Json) × List Char) :=
  match fields.find? (·.name == key) with
  | none => do
    let rest ← skipValue steps (← readColon cs)
    .ok (collected, rest)
  | some field =>
    if (collected.lookup key).isSome then
      .error (.ofMismatch (.duplicateField key) (afterBrace cs))
    else do
      let (j, rest) ← field.shape steps depth (← readColon cs)
      match field.accept j with
      | .ok _ => .ok ((key, j) :: collected, rest)
      | .error mismatch => .error (.ofMismatch mismatch (afterBrace rest))

/-- The fields in their order, those not there as their absence says. -/
def complete (fields : List Field) (collected : List (String × Json)) :
    Except Mismatch (List (String × Json)) :=
  fields.mapM fun field =>
    match collected.lookup field.name, field.absent with
    | some j, _ => .ok (field.name, j)
    | none, .required => .error (.missingField field.name)
    | none, .null => .ok (field.name, .null)
    | none, .default j => .ok (field.name, j)

/-- A record in the form of an object, after its brace. -/
def recordFromObject (fields : List Field) : Shape := fun steps depth cs => do
  let (collected, rest) ← readMembersFrom (recordMember fields steps depth) steps true [] cs
  match complete fields collected with
  | .ok members => .ok (.object members, rest.drop 1)
  | .error mismatch => .error (.ofMismatch mismatch (rest.drop 1))

/-- The next item of a sequence, if there is one: what is left before it. -/
def nextItem? (first : Bool) (cs : List Char) : Except Fault (Option (List Char)) :=
  match skipBlank cs with
  | [] => .error (.atNext .endInArray [])
  | ']' :: _ => .ok none
  | c :: rest =>
    if first then .ok (some (c :: rest))
    else if c = ',' then
      match skipBlank rest with
      | [] => .error (.atNext .endInValue [])
      | ']' :: rest => .error (.atNext .trailingComma (']' :: rest))
      | rest => .ok (some rest)
    else .error (.atNext .expectedCommaOrBracket (c :: rest))

/-- The fields of a record in the form of a sequence, one after the other; `position` fields come
before these. -/
def readFields (record : String) (total steps depth : Nat) :
    (position : Nat) → List Field → List Char → Except Fault (List (String × Json) × List Char)
  | _, [], cs => .ok ([], cs)
  | position, field :: fields, cs => do
    let (j, rest) ← match ← nextItem? (position == 0) cs, field.absent with
      | none, .default j => .ok (j, cs)
      | none, _ =>
        .error (.ofMismatch (.tooShort position record total) (afterBracket cs))
      | some rest, _ => field.shape steps depth rest
    match field.accept j with
    | .error mismatch => .error (.ofMismatch mismatch (afterBracket rest))
    | .ok _ =>
      let (members, rest) ← readFields record total steps depth (position + 1) fields rest
      .ok ((field.name, j) :: members, rest)

/-- What is left after the bracket of a sequence that has all its fields. -/
def closeSequence (cs : List Char) : Except Fault (List Char) :=
  match skipBlank cs with
  | [] => .error (.atNext .endInArray [])
  | ']' :: rest => .ok rest
  | ',' :: rest =>
    match skipBlank rest with
    | ']' :: rest => .error (.atNext .trailingComma (']' :: rest))
    | rest => .error (.atNext .trailingCharacters rest)
  | rest => .error (.atNext .trailingCharacters rest)

/-- A record: an object, or a sequence of the fields in their order. -/
def record (name : String) (fields : List Field) : Shape := fun steps depth cs =>
  match skipBlank cs, depth with
  | '[' :: rest, 0 => .error (.atNext .tooDeep ('[' :: rest))
  | '{' :: rest, 0 => .error (.atNext .tooDeep ('{' :: rest))
  | '[' :: rest, depth + 1 => do
    let (members, rest) ← readFields name fields.length steps depth 0 fields rest
    return (.object members, ← closeSequence rest)
  | '{' :: rest, depth + 1 => recordFromObject fields steps depth rest
  | cs, depth => scalar (Decode.members (.record name)) steps depth cs

end Shape

/-- A text as one value of a shape. -/
def parseAs (shape : Shape) (text : String) : Except Error Json :=
  let cs := text.toList
  let result : Except Fault Json := do
    let (j, rest) ← shape (stepsFor cs) depthLimit cs
    readEnd rest
    return j
  match result with
  | .ok j => .ok j
  | .error fault => .error (.ofFault fault cs)

/-- A text as one value of a type with a shape. -/
def readAs {α : Type} (shape : Shape) (decode : Json → Except Mismatch α) (text : String) :
    Except Error α := do
  match decode (← parseAs shape text) with
  | .ok value => .ok value
  | .error mismatch => .error (.ofMismatch mismatch)

end CompletionService.Json
