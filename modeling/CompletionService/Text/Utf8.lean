/-!
# UTF-8 octets

`decodeUtf8` reads octets as a text. When they are none, the answer says where the first fault
lies: the offset up to which the octets are sound, and how many octets of the broken sequence are
the start of a sequence that could have been completed. A sequence that only lacks its end has no
such count.
-/

namespace CompletionService.Text

/-- Where octets stop being UTF-8. -/
structure Malformed where
  /-- the number of sound octets before the fault -/
  index : Nat
  /-- the length of the broken sequence; `none` when the octets end inside a sequence -/
  width? : Option Nat
  deriving DecidableEq, Repr

/-- The wording of a fault. -/
def Malformed.message (m : Malformed) : String :=
  match m.width? with
  | some width => s!"invalid utf-8 sequence of {width} bytes from index {m.index}"
  | none => s!"incomplete utf-8 byte sequence from index {m.index}"

/-- The octets that continue a sequence. -/
def isContinuation (b : UInt8) : Bool := 0x80 ≤ b && b ≤ 0xBF

/-- The octets that may follow a first octet, as a closed range; a first octet that opens no
sequence of two or more has none. The ranges leave out overlong forms, surrogates and what lies
beyond the last code point. -/
def secondRange? (first : UInt8) : Option (UInt8 × UInt8) :=
  if 0xC2 ≤ first && first ≤ 0xDF then some (0x80, 0xBF)
  else if first = 0xE0 then some (0xA0, 0xBF)
  else if first = 0xED then some (0x80, 0x9F)
  else if 0xE1 ≤ first && first ≤ 0xEF then some (0x80, 0xBF)
  else if first = 0xF0 then some (0x90, 0xBF)
  else if 0xF1 ≤ first && first ≤ 0xF3 then some (0x80, 0xBF)
  else if first = 0xF4 then some (0x80, 0x8F)
  else none

/-- How many octets a sequence with this first octet has. -/
def sequenceLength (first : UInt8) : Nat :=
  if first < 0x80 then 1 else if first < 0xE0 then 2 else if first < 0xF0 then 3 else 4

/-- One sequence at the head of the octets: its length, or its fault as in `Malformed.width?`. -/
def firstSequence : List UInt8 → Except (Option Nat) Nat
  | [] => .ok 0
  | first :: rest =>
    if first < 0x80 then .ok 1
    else match secondRange? first with
      | none => .error (some 1)
      | some (lo, hi) =>
        match rest with
        | [] => .error none
        | second :: rest =>
          if !(lo ≤ second && second ≤ hi) then .error (some 1)
          else if sequenceLength first = 2 then .ok 2
          else match rest with
            | [] => .error none
            | third :: rest =>
              if !isContinuation third then .error (some 2)
              else if sequenceLength first = 3 then .ok 3
              else match rest with
                | [] => .error none
                | fourth :: _ => if isContinuation fourth then .ok 4 else .error (some 3)

/-- The first fault in the octets, which start at `index`; `skip` octets of the sequence that is
being passed over are still to come. -/
def firstFault (index skip : Nat) : List UInt8 → Malformed
  | [] => ⟨index, none⟩
  | b :: rest =>
    match skip with
    | skip + 1 => firstFault (index + 1) skip rest
    | 0 =>
      match firstSequence (b :: rest) with
      | .error width? => ⟨index, width?⟩
      | .ok length => firstFault (index + 1) (length - 1) rest

/-- The text whose UTF-8 form the octets are. -/
def decodeUtf8 (octets : ByteArray) : Except Malformed String :=
  match String.fromUTF8? octets with
  | some text => .ok text
  | none => .error (firstFault 0 0 octets.toList)

end CompletionService.Text
