import CompletionService.Json.Printer
import CompletionService.Proofs.Octets

/-!
# Texts without control characters

A JSON text holds no character below U+0020, for the printer escapes those inside strings and sets
none of its own. So it holds no line end either, and a line end may be used to tell where a text is
over. The same is true of the octets of the text: UTF-8 has octets below `0x80` for characters below
U+0080 only (`Plain.octets`).
-/

namespace CompletionService

open Number

/-- A text without control characters. -/
def Plain (text : List Char) : Prop := ∀ c ∈ text, 0x20 ≤ c.toNat

/-! ## Octets -/

/-- The octets of a character that is no control character. -/
theorem le_of_mem_utf8EncodeChar {c : Char} (h : 0x20 ≤ c.toNat) :
    ∀ octet ∈ String.utf8EncodeChar c, 0x20 ≤ octet.toNat := by
  have hval : 0x20 ≤ c.val.toNat := h
  unfold String.utf8EncodeChar
  simp only
  split
  · rw [List.forall_mem_singleton, UInt8.toNat_ofNat']
    omega
  -- the octets of longer sequences are at least 0x80
  split
  case' isFalse => split
  all_goals
    simp only [List.forall_mem_cons, List.not_mem_nil, false_imp_iff, implies_true, and_true,
      UInt8.toNat_ofNat']
    omega

namespace Plain

variable {text others : List Char}

theorem nil : Plain [] := fun _ h => nomatch h

theorem cons {c : Char} (hc : 0x20 ≤ c.toNat) (h : Plain text) : Plain (c :: text) :=
  List.forall_mem_cons.mpr ⟨hc, h⟩

theorem append (h : Plain text) (h' : Plain others) : Plain (text ++ others) :=
  List.forall_mem_append.mpr ⟨h, h'⟩

theorem of_subset (h : Plain text) (hsub : others ⊆ text) : Plain others :=
  fun c hc => h c (hsub hc)

/-- A text can be tested for control characters. -/
theorem of_all (h : text.all (0x20 ≤ ·.toNat) = true) : Plain text :=
  fun c hc => of_decide_eq_true (List.all_eq_true.mp h c hc)

/-- There is no line end in it. -/
theorem newline_not_mem (h : Plain text) : '\n' ∉ text :=
  fun hmem => absurd (h _ hmem) (by decide)

/-- None of its octets is below U+0020 either. -/
theorem octets (h : Plain text) :
    ∀ octet ∈ (String.ofList text).toUTF8.data, 0x20 ≤ octet.toNat := by
  intro octet hmem
  rw [Text.data_toUTF8_ofList, List.mem_toArray, Text.octets, List.mem_flatMap] at hmem
  obtain ⟨c, hc, hoctet⟩ := hmem
  exact le_of_mem_utf8EncodeChar (h c hc) octet hoctet

end Plain

/-! ## Numbers -/

theorem plain_toDigits (n : Nat) : Plain (Nat.toDigits 10 n) := by
  intro c hc
  have hdigit := Char.isDigit_iff_toNat.mp (Nat.isDigit_of_mem_toDigits (by decide) (by decide) hc)
  exact Nat.le_trans (by decide) hdigit.1

theorem plain_significantDigits (n : Nat) : Plain (significantDigits n) := by
  refine (plain_toDigits n).of_subset fun c hc => ?_
  rw [significantDigits, List.mem_reverse] at hc
  exact List.mem_reverse.mp ((List.dropWhile_sublist _).subset hc)

theorem plain_replicate (n : Nat) : Plain (List.replicate n '0') := by
  intro c hc
  rw [List.eq_of_mem_replicate hc]
  decide

/-- A numeral has digits, a point, a sign and the letter of the exponent. -/
theorem Number.Layout.plain_write (layout : Layout) (n : Numeral) : Plain (layout.write n) := by
  have hdigits := plain_significantDigits n.digits
  have htake (k : Nat) : Plain ((significantDigits n.digits).take k) :=
    hdigits.of_subset (List.take_subset k _)
  have hdrop (k : Nat) : Plain ((significantDigits n.digits).drop k) :=
    hdigits.of_subset (List.drop_subset k _)
  rw [Layout.write]
  split
  · split
    · exact (((plain_replicate _).append hdigits).cons (by decide)).cons (by decide)
    · simp only
      split
      · exact (hdigits.append (plain_replicate _)).append (.of_all rfl)
      · exact (htake _).append ((hdrop _).cons (by decide))
  · simp only
    refine ((htake 1).append ?_).append (.cons (by decide) (.cons ?_ (plain_toDigits _)))
    · have hothers := hdrop 1
      split
      · exact .nil
      · exact hothers.cons (by decide)
    · split <;> decide

theorem Number.Finite.plain_write {f : Format} (layout : Layout) (x : Finite f) :
    Plain (x.write layout) := by
  have hmagnitude : Plain
      (if x.units = 0 then ['0', '.', '0'] else layout.write (f.shortest x.units)) := by
    split
    · exact .of_all rfl
    · exact layout.plain_write _
  rw [Finite.write]
  split
  · exact hmagnitude.cons (by decide)
  · exact hmagnitude

/-! ## Values -/

namespace Json

theorem plain_hexPair {n : Nat} (h : n < 0x20) : Plain (hexPair n) := by
  have hall : ∀ n < 0x20, (hexPair n).all (0x20 ≤ ·.toNat) = true := by decide
  exact .of_all (hall n h)

/-- What would be a control character is escaped. -/
theorem plain_escapeChar (c : Char) : Plain (escapeChar c) := by
  unfold escapeChar
  split
  case h_8 =>
    split
    · rename_i hlow
      exact .cons (by decide) (.cons (by decide) (.cons (by decide) (.cons (by decide)
        (plain_hexPair hlow))))
    · rename_i hlow
      exact Plain.nil.cons (Nat.le_of_not_lt hlow)
  all_goals exact .of_all rfl

theorem plain_writeString (s : String) : Plain (writeString s) := by
  refine .cons (by decide) (.append (fun c hc => ?_) (.of_all rfl))
  obtain ⟨d, -, hd⟩ := List.mem_flatMap.mp hc
  exact plain_escapeChar d c hd

theorem plain_commaSeparated {items : List (List Char)} (h : ∀ item ∈ items, Plain item) :
    Plain (commaSeparated items) := by
  induction items with
  | nil => exact .nil
  | cons first items ih =>
    rw [List.forall_mem_cons] at h
    cases items with
    | nil => exact h.1
    | cons next items => exact h.1.append ((ih h.2).cons (by decide))

mutual

/-- **The compact text of a value** has no control characters. -/
theorem plain_write : ∀ j : Json, Plain j.write
  | .null => by rw [write]; exact .of_all rfl
  | .boolean true => by rw [write]; exact .of_all rfl
  | .boolean false => by rw [write]; exact .of_all rfl
  | .whole n => by
    rw [write, writeInt]
    split
    · exact (plain_toDigits _).cons (by decide)
    · exact plain_toDigits _
  | .float x => by
    rw [write]
    exact x.plain_write _
  | .string s => by rw [write]; exact plain_writeString s
  | .array items => by
    rw [write, writeItems]
    exact .cons (by decide) ((plain_commaSeparated (plain_writeEach items)).append
      (.of_all rfl))
  | .object members => by
    rw [write, writeMembers]
    refine .cons (by decide) ((plain_commaSeparated ?_).append (.of_all rfl))
    intro item hitem
    obtain ⟨m, hm, rfl⟩ := List.mem_map.mp hitem
    exact (plain_writeString m.1).append ((plain_writeValues members m hm).cons (by decide))

theorem plain_writeEach : ∀ items : List Json, ∀ text ∈ writeEach items, Plain text
  | [], _, h => nomatch h
  | j :: items, text, h => by
    rw [writeEach] at h
    rcases List.mem_cons.mp h with rfl | hmem
    · exact plain_write j
    · exact plain_writeEach items text hmem

theorem plain_writeValues :
    ∀ members : List (String × Json), ∀ m ∈ writeValues members, Plain m.2
  | [], _, h => nomatch h
  | (key, value) :: members, m, h => by
    rw [writeValues] at h
    rcases List.mem_cons.mp h with rfl | hmem
    · exact plain_write value
    · exact plain_writeValues members m hmem

end

end Json

end CompletionService
