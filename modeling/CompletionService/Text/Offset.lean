/-!
# Byte offsets in a text

Lengths and cuts are counted in bytes of the UTF-8 form, while a text is a list of characters.
Three layers:

* measures — `byteLength`, and `charFloor`, the last character boundary at or before an offset;
* cuts — `takeBytes` and `dropBytes?`, the two sides of a text at an offset;
* search — `find?`, the first offset at which a pattern starts.

An offset is a *boundary* of a text when `takeBytes` and `dropBytes?` split the text there.
-/

namespace CompletionService.Text

/-! ## Measures -/

/-- The number of bytes that the characters take. -/
def byteLength : List Char → Nat
  | [] => 0
  | c :: cs => c.utf8Size + byteLength cs

@[simp] theorem byteLength_nil : byteLength [] = 0 := rfl

@[simp] theorem byteLength_cons (c : Char) (cs : List Char) :
    byteLength (c :: cs) = c.utf8Size + byteLength cs := rfl

/-- Lengths add up when texts are joined. -/
@[simp] theorem byteLength_append (s t : List Char) :
    byteLength (s ++ t) = byteLength s + byteLength t := by
  induction s with
  | nil => simp
  | cons c cs ih => simp [ih, Nat.add_assoc]

/-- The greatest character boundary of the text that is at most `offset`. -/
def charFloor : Nat → List Char → Nat
  | _, [] => 0
  | offset, c :: cs =>
    if c.utf8Size ≤ offset then c.utf8Size + charFloor (offset - c.utf8Size) cs else 0

/-- The floor of an offset is not past it. -/
theorem charFloor_le_offset (offset : Nat) (cs : List Char) : charFloor offset cs ≤ offset := by
  induction cs generalizing offset with
  | nil => simp [charFloor]
  | cons c cs ih =>
    rw [charFloor]
    split
    · have := ih (offset - c.utf8Size)
      omega
    · omega

/-! ## Cuts -/

/-- The characters that end at or before `offset`. -/
def takeBytes : Nat → List Char → List Char
  | _, [] => []
  | offset, c :: cs =>
    if c.utf8Size ≤ offset then c :: takeBytes (offset - c.utf8Size) cs else []

/-- The characters from `offset` on; `none` past the end and inside a character. -/
def dropBytes? : Nat → List Char → Option (List Char)
  | 0, cs => some cs
  | _ + 1, [] => none
  | offset + 1, c :: cs =>
    if c.utf8Size ≤ offset + 1 then dropBytes? (offset + 1 - c.utf8Size) cs else none

/-- The characters before an offset take exactly as many bytes as its floor says. -/
theorem byteLength_takeBytes (offset : Nat) (cs : List Char) :
    byteLength (takeBytes offset cs) = charFloor offset cs := by
  induction cs generalizing offset with
  | nil => rfl
  | cons c cs ih =>
    rw [takeBytes, charFloor]
    split
    · simp [ih]
    · rfl

/-! ## Search -/

/-- The first byte offset at which `pattern` starts in the text. -/
def find? (pattern : List Char) : List Char → Option Nat
  | [] => if pattern.isEmpty then some 0 else none
  | c :: cs =>
    if pattern.isPrefixOf (c :: cs) then some 0 else (find? pattern cs).map (c.utf8Size + ·)

end CompletionService.Text
