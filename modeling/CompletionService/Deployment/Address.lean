import CompletionService.Text.Digit

/-!
# Socket addresses

The address that the service listens on: an address of the Internet protocol, version 4 or 6, with a
port. Of several ways to write an address of version 6 the shortest is the canonical one.
-/

namespace CompletionService

-- a power is that of the core library, whatever else is imported
attribute [local instance (high)] instPowNat

/-- An address of version 4: four octets. -/
structure Ipv4 where
  octets : List UInt8
  deriving DecidableEq, Repr

/-- An address of version 6: eight groups of 16 bits. -/
structure Ipv6 where
  groups : List UInt16
  deriving DecidableEq, Repr

/-- An address with a port. -/
inductive SocketAddress
  | v4 (address : Ipv4) (port : UInt16)
  /-- the scope is 0 if there is none -/
  | v6 (address : Ipv6) (scope : UInt32) (port : UInt16)
  deriving DecidableEq, Repr

/-! ## Writing -/

/-- Words with a mark between them. -/
def joinWith (mark : String) (words : List String) : String := mark.intercalate words

namespace Ipv4

/-- The text of an address. -/
def text (a : Ipv4) : String := joinWith "." (a.octets.map fun octet => toString octet.toNat)

end Ipv4

namespace Ipv6

/-- Groups as hexadecimal numbers. -/
def groupsText (groups : List UInt16) : String :=
  joinWith ":" (groups.map fun group => String.ofList (Nat.toDigits 16 group.toNat))

/-- The start and the length of the longest run of zeros, the first of several. `best` is the
longest before `index`. -/
def longestZeros (best : Nat × Nat) (index : Nat) : List UInt16 → Nat × Nat
  | [] => best
  | group :: rest =>
    let run := (group :: rest).takeWhile (· == 0)
    longestZeros (if best.2 < run.length then (index, run.length) else best) (index + 1) rest

/-- The text of an address: the longest run of zeros, if it has more than one, is left out, and an
address that stands for one of version 4 shows it. -/
def text (a : Ipv6) : String :=
  match a.groups with
  | [0, 0, 0, 0, 0, 0xFFFF, high, low] =>
    let octets := [high >>> 8, high &&& 0xFF, low >>> 8, low &&& 0xFF].map (·.toUInt8)
    "::ffff:" ++ (Ipv4.mk octets).text
  | groups =>
    let (start, length) := longestZeros (0, 0) 0 groups
    if 1 < length then
      groupsText (groups.take start) ++ "::" ++ groupsText (groups.drop (start + length))
    else groupsText groups

end Ipv6

/-- The text of an address. -/
def SocketAddress.text : SocketAddress → String
  | .v4 address port => s!"{address.text}:{port}"
  | .v6 address scope port =>
    let zone := if scope = 0 then "" else s!"%{scope}"
    s!"[{address.text}{zone}]:{port}"

/-! ## Reading -/

namespace SocketAddress

/-- A number below a bound, and what comes after it. -/
def readNumber (base bound : Nat) (cs : List Char) : Option (List Char × Nat × List Char) :=
  let digits := cs.takeWhile fun c => (Text.digit? base c).isSome
  let n := digits.foldl (fun n c => n * base + (Text.digit? base c).getD 0) 0
  if digits.isEmpty || bound ≤ n then none else some (digits, n, cs.drop digits.length)

/-- The next character, which has to be this one. -/
def readMark (mark : Char) : List Char → Option (List Char)
  | c :: rest => if c = mark then some rest else none
  | [] => none

/-- One octet: up to three digits, without idle zeros. -/
def readOctet (cs : List Char) : Option (UInt8 × List Char) := do
  let (digits, n, rest) ← readNumber 10 256 cs
  if 3 < digits.length || (1 < digits.length && digits.head? == some '0') then none
  else some (.ofNat n, rest)

/-- An address of version 4. -/
def readIpv4 (cs : List Char) : Option (Ipv4 × List Char) := do
  let (a, rest) ← readOctet cs
  let (b, rest) ← readOctet (← readMark '.' rest)
  let (c, rest) ← readOctet (← readMark '.' rest)
  let (d, rest) ← readOctet (← readMark '.' rest)
  some (⟨[a, b, c, d]⟩, rest)

/-- One group: up to four hexadecimal digits. -/
def readGroup (cs : List Char) : Option (UInt16 × List Char) := do
  let (digits, n, rest) ← readNumber 16 0x10000 cs
  if 4 < digits.length then none else some (.ofNat n, rest)

/-- Up to `room` groups with colons between them; two of them may be written as an address of
version 4, which ends the groups. Tells whether that is so. -/
def readGroups : (room : Nat) → (first : Bool) → List Char → List UInt16 × Bool × List Char
  | 0, _, cs => ([], false, cs)
  | room + 1, first, cs =>
    match if first then some cs else readMark ':' cs with
    | none => ([], false, cs)
    | some inside =>
      match if room = 0 then none else readIpv4 inside with
      | some (⟨[a, b, c, d]⟩, rest) =>
        let pair (x y : UInt8) : UInt16 := x.toUInt16 <<< 8 ||| y.toUInt16
        ([pair a b, pair c d], true, rest)
      | _ =>
        match readGroup inside with
        | none => ([], false, cs)
        | some (group, rest) =>
          let (groups, embedded, rest) := readGroups room false rest
          (group :: groups, embedded, rest)

/-- An address of version 6; two colons stand for at least one group of zeros. -/
def readIpv6 (cs : List Char) : Option (Ipv6 × List Char) := do
  let (head, embedded, rest) := readGroups 8 true cs
  if head.length = 8 then some (⟨head⟩, rest)
  else if embedded then none
  else
    let rest ← readMark ':' (← readMark ':' rest)
    let (tail, _, rest) := readGroups (7 - head.length) true rest
    some (⟨head ++ List.replicate (8 - head.length - tail.length) 0 ++ tail⟩, rest)

/-- A port, with which the text ends. -/
def readPort (cs : List Char) : Option UInt16 := do
  let (_, n, rest) ← readNumber 10 0x10000 (← readMark ':' cs)
  if rest.isEmpty then some (.ofNat n) else none

/-- A scope, if there is one. -/
def readScope (cs : List Char) : UInt32 × List Char :=
  match (readMark '%' cs).bind (readNumber 10 (2 ^ (32 : Nat))) with
  | some (_, n, rest) => (.ofNat n, rest)
  | none => (0, cs)

/-- An address with a port. -/
def ofText? (text : String) : Option SocketAddress :=
  match (readIpv4 text.toList).bind fun (address, rest) => (address, ·) <$> readPort rest with
  | some (address, port) => some (.v4 address port)
  | none => do
    let (address, rest) ← readIpv6 (← readMark '[' text.toList)
    let (scope, rest) := readScope rest
    return .v6 address scope (← readPort (← readMark ']' rest))

end SocketAddress

end CompletionService
