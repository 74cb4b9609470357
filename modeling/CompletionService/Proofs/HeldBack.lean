import CompletionService.Proofs.Octets
import CompletionService.Proofs.Stopping

/-!
# What is held back, in octets

`heldBack` tries the ends of a text that start at a character and that are not longer than the
longest stop text. Whoever tries all ends of the octets, also those that start inside a character
and those that are longer, finds nothing else: `isGreatest_heldBack_octets`.

The octets of a stop text start with one that comes first in a character. So an end of the octets
that starts a stop text starts at a character, and it starts the stop text exactly if the characters
do (`endsInside_iff`). The window is dealt with by `isGreatest_heldBack`.
-/

namespace CompletionService

open Text

variable {stops : List String} {cs tail : List Char} {count : Nat}

/-- So many octets at the end of the text start a stop text, though they are not all of it. -/
def EndsInside (stops : List String) (cs : List Char) (count : Nat) : Prop :=
  ∃ tail, tail <:+ octets cs ∧ tail.length = count ∧
    ∃ stop ∈ stops, tail <+: octets stop.toList ∧ tail ≠ octets stop.toList

/-- An end of a text is pending exactly if its octets start a stop text and are not all of it. -/
theorem pending_iff_octets : Pending stops tail ↔
    ∃ stop ∈ stops, octets tail <+: octets stop.toList ∧ octets tail ≠ octets stop.toList := by
  simp only [Pending, octets_prefix_iff, Ne, octets_inj]

/-- **Octets that start a stop text** are those of a pending end of the text. -/
theorem endsInside_iff : EndsInside stops cs count ↔
    ∃ tail, tail <:+ cs ∧ Pending stops tail ∧ byteLength tail = count := by
  constructor
  · rintro ⟨_, hend, hlen, stop, hmem, hstart, hne⟩
    obtain ⟨tail, htail, rfl⟩ := exists_suffix_of_octets hend hstart
    rw [length_octets] at hlen
    exact ⟨tail, htail, pending_iff_octets.mpr ⟨stop, hmem, hstart, hne⟩, hlen⟩
  · rintro ⟨tail, ⟨before, rfl⟩, hpending, hlen⟩
    refine ⟨octets tail, ?_, by rw [length_octets, hlen], pending_iff_octets.mp hpending⟩
    rw [octets_append]
    exact List.suffix_append _ _

/-- What can be held back is nothing, or what starts a stop text. -/
theorem holds_iff_endsInside : Holds stops cs count ↔ count = 0 ∨ EndsInside stops cs count := by
  rw [endsInside_iff]
  constructor
  · rintro ⟨tail, htail, rfl | hpending, hlen⟩
    · exact .inl hlen.symm
    · exact .inr ⟨tail, htail, hpending, hlen⟩
  · rintro (rfl | ⟨tail, htail, hpending, hlen⟩)
    · exact ⟨[], List.nil_suffix, .inl rfl, rfl⟩
    · exact ⟨tail, htail, .inr hpending, hlen⟩

/-- **Hold-back is exact**: of all ends of the octets of the text, from none of them to all, the
longest one that starts a stop text and is not all of it is held back; if there is none, nothing
is. -/
theorem isGreatest_heldBack_octets (stops : List String) (text : String) :
    IsGreatest {count | count = 0 ∨ EndsInside stops text.toList count}
      (heldBack (stops.map String.toList) text.toList) := by
  simp only [← holds_iff_endsInside]
  exact isGreatest_heldBack stops text.toList

/-- Both octets of the last character are held back, and not only the first one. -/
example : heldBack (["é!", "ê"].map String.toList) "café".toList = 2 := by decide

end CompletionService
