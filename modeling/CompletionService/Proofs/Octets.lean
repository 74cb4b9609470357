import CompletionService.Proofs.Offset
import CompletionService.Text.Utf8
import Mathlib.Data.List.Basic

/-!
# Texts as octets

The UTF-8 form of a text, character by character, and what it lets a reader of octets tell.

* `octets` — the octets of a text. There are as many as `byteLength` says, and they are read back as
  the text (`decodeUtf8_toUTF8`).
* `octets_prefix_iff` — a text starts with another one exactly if its octets do.
* `exists_octets_split` — UTF-8 is *self-synchronizing*: whoever meets an octet that can come first
  in a character is between two characters. So octets that start a text and end another one are
  those of an end of the other one (`exists_suffix_of_octets`).
-/

namespace CompletionService.Text

variable {cs ds s t : List Char}

/-- The octets of a text. -/
def octets (cs : List Char) : List UInt8 := cs.flatMap String.utf8EncodeChar

@[simp] theorem octets_nil : octets [] = [] := rfl

@[simp] theorem octets_cons (c : Char) (cs : List Char) :
    octets (c :: cs) = String.utf8EncodeChar c ++ octets cs := List.flatMap_cons

@[simp] theorem octets_append (s t : List Char) : octets (s ++ t) = octets s ++ octets t :=
  List.flatMap_append

/-- They are the UTF-8 form of the text. -/
theorem data_toUTF8_ofList (cs : List Char) :
    (String.ofList cs).toUTF8.data = (octets cs).toArray := by
  rw [String.toUTF8, String.toByteArray_ofList, List.utf8Encode]
  exact List.data_toByteArray

/-- The length of a text is the number of its octets. -/
@[simp] theorem length_octets (cs : List Char) : (octets cs).length = byteLength cs := by
  induction cs with
  | nil => rfl
  | cons c cs ih =>
    rw [octets_cons, List.length_append, ih, String.length_utf8EncodeChar, byteLength_cons]

/-- Only the empty text has an empty UTF-8 form. -/
theorem isEmpty_toUTF8_ofList : (String.ofList cs).toUTF8.isEmpty = true ↔ cs = [] := by
  have hsize : (String.ofList cs).toUTF8.size = byteLength cs := by
    rw [ByteArray.size, data_toUTF8_ofList, List.size_toArray, length_octets]
  rw [ByteArray.isEmpty, beq_iff_eq, hsize, byteLength_eq_zero]

/-- The UTF-8 form of a text is read as the text. -/
theorem decodeUtf8_toUTF8 (text : String) : decodeUtf8 text.toUTF8 = .ok text := by
  have hread : String.fromUTF8? text.toUTF8 = some text := dif_pos text.isValidUTF8
  rw [decodeUtf8, hread]

/-! ## Starts -/

/-- **Starts**: octets that start with those of a text are those of a text that starts with it. -/
theorem octets_prefix_iff : octets s <+: octets t ↔ s <+: t := by
  constructor
  · rintro ⟨rest, hrest⟩
    refine List.isPrefix_of_utf8Encode_append_eq_utf8Encode rest.toByteArray ?_
    have hencode (cs : List Char) : cs.utf8Encode = (octets cs).toByteArray := rfl
    rw [hencode, hencode, ← hrest, List.toByteArray_append]
  · rintro ⟨rest, rfl⟩
    rw [octets_append]
    exact List.prefix_append _ _

/-- Texts with the same octets are the same. -/
theorem octets_inj : octets s = octets t ↔ s = t := by
  constructor
  · intro h
    have hle : s <+: t := octets_prefix_iff.mp (h ▸ List.prefix_rfl)
    have hge : t <+: s := octets_prefix_iff.mp (h ▸ List.prefix_rfl)
    exact hle.eq_of_length_le hge.length_le
  · rintro rfl
    rfl

/-! ## Self-synchronization -/

/-- A text that is not empty has an octet that can come first in a character as its first. -/
theorem exists_octets_eq_cons (h : cs ≠ []) :
    ∃ first rest, octets cs = first :: rest ∧ first.IsUTF8FirstByte := by
  obtain ⟨c, cs, rfl⟩ := List.exists_cons_of_ne_nil h
  obtain ⟨first, rest, hfirst⟩ := List.exists_cons_of_ne_nil (String.utf8EncodeChar_ne_nil (c := c))
  refine ⟨first, rest ++ octets cs, by rw [octets_cons, hfirst, List.cons_append], ?_⟩
  have hzero := UInt8.isUTF8FirstByte_getElem_zero_utf8EncodeChar (c := c)
  simpa only [hfirst, List.getElem_cons_zero] using hzero

/-- Behind the first octet of a character there is none that could come first. -/
theorem eq_nil_of_utf8EncodeChar_eq {c : Char} {before rest : List UInt8} {first : UInt8}
    (h : String.utf8EncodeChar c = before ++ first :: rest) (hfirst : first.IsUTF8FirstByte) :
    before = [] := by
  have hlt : before.length < (String.utf8EncodeChar c).length := by
    rw [h, List.length_append, List.length_cons]
    omega
  have hat : (String.utf8EncodeChar c)[before.length] = first := by
    simp only [h, List.getElem_append_right (Nat.le_refl _), Nat.sub_self, List.getElem_cons_zero]
  rw [← hat, UInt8.isUTF8FirstByte_getElem_utf8EncodeChar] at hfirst
  exact List.eq_nil_of_length_eq_zero hfirst

/-- **Self-synchronization**: where an octet can come first in a character, the text can be cut. -/
theorem exists_octets_split {before rest : List UInt8} {first : UInt8}
    (h : octets cs = before ++ first :: rest) (hfirst : first.IsUTF8FirstByte) :
    ∃ s t, s ++ t = cs ∧ octets s = before ∧ octets t = first :: rest := by
  induction cs generalizing before with
  | nil =>
    rw [octets_nil] at h
    exact absurd h.symm (by simp)
  | cons c cs ih =>
    rw [octets_cons, List.append_eq_append_iff] at h
    rcases h with ⟨between, rfl, hlater⟩ | ⟨inside, hinside, hlater⟩
    · -- the octet comes behind the first character
      obtain ⟨s, t, rfl, rfl, ht⟩ := ih hlater
      exact ⟨c :: s, t, rfl, octets_cons c s, ht⟩
    · cases inside with
      | nil =>
        -- it is the one behind the first character
        have hnext : octets cs = [] ++ first :: rest := hlater.symm
        obtain ⟨s, t, rfl, hs, ht⟩ := ih hnext
        refine ⟨c :: s, t, rfl, ?_, ht⟩
        rw [octets_cons, hs, hinside, List.append_nil, List.append_nil]
      | cons other inside =>
        -- it is in the first character, so it is the first of that
        obtain ⟨rfl, -⟩ := List.cons_eq_cons.mp hlater
        obtain rfl := eq_nil_of_utf8EncodeChar_eq hinside hfirst
        refine ⟨[], c :: cs, rfl, rfl, ?_⟩
        rw [octets_cons, hinside, List.nil_append, hlater]

/-- Octets that end a text and start another one are those of an end of the text. -/
theorem exists_suffix_of_octets {tail : List UInt8} (hend : tail <:+ octets cs)
    (hstart : tail <+: octets ds) : ∃ t, t <:+ cs ∧ octets t = tail := by
  cases tail with
  | nil => exact ⟨[], List.nil_suffix, rfl⟩
  | cons first rest =>
    obtain ⟨before, hbefore⟩ := hend
    have hne : ds ≠ [] := by
      rintro rfl
      exact absurd (List.prefix_nil.mp hstart) (List.cons_ne_nil _ _)
    obtain ⟨other, others, hothers, hfirst⟩ := exists_octets_eq_cons hne
    rw [hothers, List.cons_prefix_cons] at hstart
    obtain ⟨rfl, -⟩ := hstart
    obtain ⟨s, t, rfl, -, ht⟩ := exists_octets_split hbefore.symm hfirst
    exact ⟨t, List.suffix_append s t, ht⟩

end CompletionService.Text
