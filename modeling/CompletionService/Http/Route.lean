import CompletionService.Text.Utf8

/-!
# Routes

The path of a request target and the resource that it names. Names of models are one segment of the
path, in which characters may be escaped.
-/

namespace CompletionService.Http

/-! ## Targets -/

/-- What comes after the scheme of a target, if it has one. -/
def afterScheme? : List Char → Option (List Char)
  | [] => none
  | ':' :: '/' :: '/' :: rest => some rest
  | '/' :: _ => none
  | _ :: rest => afterScheme? rest

/-- Up to the query or the fragment. -/
def beforeQuery (cs : List Char) : List Char := cs.takeWhile fun c => c != '?' && c != '#'

/-- The path of a target. A target with a host and no path means the root; one that is only a host
has no path. -/
def pathOf (target : String) : String :=
  let cs := target.toList
  if cs.head? == some '/' || target = "*" then String.ofList (beforeQuery cs)
  else match afterScheme? cs with
    | none => ""
    | some rest =>
      let path := (beforeQuery rest).dropWhile (· != '/')
      if path.isEmpty then "/" else String.ofList path

/-- The path without the slashes that it starts with. -/
def withoutLeadingSlashes (path : String) : String :=
  String.ofList (path.toList.dropWhile (· = '/'))

/-! ## Escapes -/

/-- The value of an octet that is a hexadecimal digit. -/
def hexOctet? (b : UInt8) : Option UInt8 :=
  if 0x30 ≤ b && b ≤ 0x39 then some (b - 0x30)
  else if 0x41 ≤ b && b ≤ 0x46 then some (b - 0x41 + 10)
  else if 0x61 ≤ b && b ≤ 0x66 then some (b - 0x61 + 10)
  else none

/-- Octets with the escapes resolved: a percent sign and two digits. Others stay as they are. -/
def unescape : List UInt8 → List UInt8
  | 0x25 :: high :: low :: rest =>
    match hexOctet? high, hexOctet? low with
    | some h, some l => (h * 16 + l) :: unescape rest
    | _, _ => 0x25 :: unescape (high :: low :: rest)
  | b :: rest => b :: unescape rest
  | [] => []

/-- The text that a segment stands for, unless its octets are none. -/
def segmentText? (segment : String) : Option String :=
  String.fromUTF8? ⟨(unescape segment.toUTF8.toList).toArray⟩

/-! ## Resources -/

/-- What a path names. -/
inductive Route
  /-- whether the service is up -/
  | ping
  /-- the description of a model -/
  | model (segment : String)
  /-- the completions of a model -/
  | predictions (segment : String)
  deriving DecidableEq

namespace Route

/-- The resource at a path. -/
def ofPath? (path : String) : Option Route :=
  match path.splitOn "/" with
  | ["", "ping"] => some .ping
  | ["", "models", segment] => if segment = "" then none else some (.model segment)
  | ["", "predictions", segment] => if segment = "" then none else some (.predictions segment)
  | _ => none

/-- The methods of a resource. -/
def allowed : Route → List String
  | .ping | .model _ => ["GET", "HEAD"]
  | .predictions _ => ["POST"]

end Route

end CompletionService.Http
