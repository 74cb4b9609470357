import CompletionService.Text.Offset
import Mathlib.Order.Bounds.Basic

/-!
# Boundaries and occurrences

What the cuts and the search of a text do at the offsets where the text splits.

* `Boundary` — the offsets between two characters, where `charFloor` stays, and `takeBytes` and
  `dropBytes?` give the two sides.
* `StartsAt` — the offsets at which a pattern occurs; `find?` gives the least of them.
* `FindsLeast` — what a search for the least number of some kind answers, whatever the kind.
-/

namespace CompletionService.Text

variable {cs ds s t pattern : List Char} {offset : Nat}

/-! ## Lengths -/

/-- Only the empty text takes no bytes. -/
@[simp] theorem byteLength_eq_zero : byteLength cs = 0 ↔ cs = [] := by
  cases cs with
  | nil => simp
  | cons c cs =>
    have := Char.utf8Size_pos c
    simp only [byteLength_cons, reduceCtorEq, iff_false]
    omega

/-- The start of a text is not longer than the text. -/
theorem byteLength_mono (h : s <+: t) : byteLength s ≤ byteLength t := by
  obtain ⟨r, rfl⟩ := h
  rw [byteLength_append]
  exact Nat.le_add_right ..

/-- Of two starts of one text, the one that is not longer starts the other. -/
theorem prefix_of_byteLength_le (hs : s <+: cs) (ht : t <+: cs)
    (hle : byteLength s ≤ byteLength t) : s <+: t := by
  rcases List.prefix_or_prefix_of_prefix hs ht with h | ⟨r, rfl⟩
  · exact h
  · -- what `s` has beyond `t` takes no bytes
    rw [byteLength_append] at hle
    obtain rfl : r = [] := byteLength_eq_zero.mp (by omega)
    simp only [List.append_nil, List.prefix_rfl]

/-! ## Boundaries -/

/-- The offset lies between two characters of the text, or at one of its ends. -/
def Boundary (offset : Nat) (cs : List Char) : Prop :=
  ∃ before, before <+: cs ∧ byteLength before = offset

/-- A boundary is inside the text. -/
theorem Boundary.le (h : Boundary offset cs) : offset ≤ byteLength cs := by
  obtain ⟨before, hbefore, rfl⟩ := h
  exact byteLength_mono hbefore

/-- Boundaries stay when the text is continued. -/
theorem Boundary.mono (h : Boundary offset cs) (hle : cs <+: ds) : Boundary offset ds := by
  obtain ⟨before, hbefore, hlen⟩ := h
  exact ⟨before, hbefore.trans hle, hlen⟩

/-- The later of two boundaries is one. -/
theorem Boundary.max {m n : Nat} (hm : Boundary m cs) (hn : Boundary n cs) :
    Boundary (max m n) cs := by
  rcases Nat.le_total m n with hle | hle
  · rwa [Nat.max_eq_right hle]
  · rwa [Nat.max_eq_left hle]

/-- The characters before an offset start the text. -/
theorem takeBytes_isPrefix (offset : Nat) (cs : List Char) : takeBytes offset cs <+: cs := by
  induction cs generalizing offset with
  | nil => exact List.prefix_rfl
  | cons c cs ih =>
    rw [takeBytes]
    split
    · exact List.prefix_cons_inj c |>.mpr (ih _)
    · exact List.nil_prefix

/-- Cutting behind the first part of a text gives that part. -/
theorem takeBytes_append (s t : List Char) : takeBytes (byteLength s) (s ++ t) = s := by
  induction s with
  | nil =>
    cases t with
    | nil => rfl
    | cons c t =>
      have := Char.utf8Size_pos c
      rw [byteLength_nil, List.nil_append, takeBytes, if_neg (by omega)]
  | cons c s ih =>
    rw [byteLength_cons, List.cons_append, takeBytes, if_pos (Nat.le_add_right ..),
      Nat.add_sub_cancel_left, ih]

/-- The text from the end of its first part on is the second part. -/
theorem dropBytes?_append (s t : List Char) : dropBytes? (byteLength s) (s ++ t) = some t := by
  induction s with
  | nil => rw [byteLength_nil, dropBytes?, List.nil_append]
  | cons c s ih =>
    have hpos := Char.utf8Size_pos c
    obtain ⟨n, hn⟩ : ∃ n, byteLength (c :: s) = n + 1 :=
      Nat.exists_eq_succ_of_ne_zero (by rw [byteLength_cons]; omega)
    rw [byteLength_cons] at hn
    rw [byteLength_cons, hn, List.cons_append, dropBytes?, if_pos (by omega), ← hn,
      Nat.add_sub_cancel_left, ih]

/-- The start of a text is what stands before its end. -/
theorem takeBytes_eq_of_isPrefix (h : s <+: cs) : takeBytes (byteLength s) cs = s := by
  obtain ⟨t, rfl⟩ := h
  exact takeBytes_append s t

/-- Up to a boundary, the characters take exactly as many bytes as the boundary says. -/
theorem Boundary.byteLength_takeBytes (h : Boundary offset cs) :
    byteLength (takeBytes offset cs) = offset := by
  obtain ⟨before, hbefore, rfl⟩ := h
  rw [takeBytes_eq_of_isPrefix hbefore]

/-- Before a boundary stands the same when the text is continued. -/
theorem Boundary.takeBytes_eq (h : Boundary offset cs) (hle : cs <+: ds) :
    takeBytes offset cs = takeBytes offset ds := by
  obtain ⟨before, hbefore, rfl⟩ := h
  rw [takeBytes_eq_of_isPrefix hbefore, takeBytes_eq_of_isPrefix (hbefore.trans hle)]

/-- A boundary is its own floor. -/
theorem Boundary.charFloor_eq (h : Boundary offset cs) : charFloor offset cs = offset := by
  rw [← Text.byteLength_takeBytes, h.byteLength_takeBytes]

/-- The floor of an offset is a boundary. -/
theorem boundary_charFloor (offset : Nat) (cs : List Char) : Boundary (charFloor offset cs) cs :=
  ⟨takeBytes offset cs, takeBytes_isPrefix offset cs, Text.byteLength_takeBytes offset cs⟩

/-- **Floor**: the floor of an offset is the last boundary at or before it. -/
theorem isGreatest_charFloor (offset : Nat) (cs : List Char) :
    IsGreatest {n | Boundary n cs ∧ n ≤ offset} (charFloor offset cs) := by
  refine ⟨⟨boundary_charFloor offset cs, charFloor_le_offset offset cs⟩, ?_⟩
  rintro n ⟨hn, hle⟩
  rw [← hn.charFloor_eq]
  clear hn
  induction cs generalizing n offset with
  | nil => exact Nat.le_refl _
  | cons c cs ih =>
    rw [charFloor, charFloor]
    split
    · rename_i hfits
      rw [if_pos (hfits.trans hle)]
      exact Nat.add_le_add_left (ih _ (Nat.sub_le_sub_right hle _)) _
    · exact Nat.zero_le _

/-- The end of a text is a boundary. -/
theorem boundary_byteLength (cs : List Char) : Boundary (byteLength cs) cs :=
  ⟨cs, List.prefix_rfl, rfl⟩

/-! ## Searches for the least number -/

/-- The answer of a search for the least number with a property: nothing only if there is none. -/
def FindsLeast (P : Nat → Prop) : Option Nat → Prop
  | some n => IsLeast {m | P m} n
  | none => ∀ m, ¬ P m

namespace FindsLeast

variable {P Q : Nat → Prop} {a b : Option Nat} {n : Nat}

/-- If there is a number with the property, the search finds the least one. -/
theorem exists_eq_some (h : FindsLeast P a) (hn : P n) : ∃ m, a = some m ∧ IsLeast {k | P k} m := by
  cases a with
  | none => exact absurd hn (h n)
  | some m => exact ⟨m, rfl, h⟩

/-- The least number with the property is found. -/
theorem eq_some (h : FindsLeast P a) (hn : IsLeast {k | P k} n) : a = some n := by
  obtain ⟨m, rfl, hm⟩ := h.exists_eq_some hn.1
  rw [hm.unique hn]

/-- A search answers if and only if there is something to find. -/
theorem isSome_iff (h : FindsLeast P a) : a.isSome ↔ ∃ n, P n := by
  constructor
  · intro hsome
    obtain ⟨m, rfl⟩ := Option.isSome_iff_exists.mp hsome
    exact ⟨m, h.1⟩
  · rintro ⟨n, hn⟩
    obtain ⟨m, rfl, -⟩ := h.exists_eq_some hn
    rfl

/-- Properties that hold of the same numbers are searched alike. -/
theorem congr (h : FindsLeast P a) (hPQ : ∀ m, P m ↔ Q m) : FindsLeast Q a := by
  obtain rfl : P = Q := funext fun m => propext (hPQ m)
  exact h

end FindsLeast

/-! ## Occurrences -/

/-- The pattern occurs in the text at the offset. -/
def StartsAt (pattern text : List Char) (offset : Nat) : Prop :=
  ∃ before, before ++ pattern <+: text ∧ byteLength before = offset

/-- An occurrence is a boundary. -/
theorem StartsAt.boundary (h : StartsAt pattern cs offset) : Boundary offset cs := by
  obtain ⟨before, hbefore, hlen⟩ := h
  exact ⟨before, (List.prefix_append before pattern).trans hbefore, hlen⟩

/-- Occurrences stay when the text is continued. -/
theorem StartsAt.mono (h : StartsAt pattern cs offset) (hle : cs <+: ds) :
    StartsAt pattern ds offset := by
  obtain ⟨before, hbefore, hlen⟩ := h
  exact ⟨before, hbefore.trans hle, hlen⟩

/-- An occurrence in a text with a first character is at its start or behind that character. -/
theorem startsAt_cons {c : Char} : StartsAt pattern (c :: cs) offset ↔
    (offset = 0 ∧ pattern <+: c :: cs) ∨
      ∃ n, StartsAt pattern cs n ∧ offset = c.utf8Size + n := by
  constructor
  · rintro ⟨_ | ⟨d, before⟩, hbefore, rfl⟩
    · exact .inl ⟨rfl, hbefore⟩
    · obtain ⟨rfl, hrest⟩ := List.cons_prefix_cons.mp hbefore
      exact .inr ⟨_, ⟨before, hrest, rfl⟩, rfl⟩
  · rintro (⟨rfl, h⟩ | ⟨_, ⟨before, hbefore, rfl⟩, rfl⟩)
    · exact ⟨[], h, rfl⟩
    · exact ⟨c :: before, List.cons_prefix_cons.mpr ⟨rfl, hbefore⟩, rfl⟩

/-- **Search**: `find?` gives the first offset at which the pattern occurs. -/
theorem findsLeast_find? (pattern cs : List Char) :
    FindsLeast (StartsAt pattern cs) (find? pattern cs) := by
  induction cs with
  | nil =>
    have hiff (n : Nat) : StartsAt pattern [] n ↔ pattern = [] ∧ n = 0 := by
      constructor
      · rintro ⟨before, hbefore, rfl⟩
        obtain ⟨rfl, rfl⟩ := List.append_eq_nil_iff.mp (List.prefix_nil.mp hbefore)
        exact ⟨rfl, rfl⟩
      · rintro ⟨rfl, rfl⟩
        exact ⟨[], List.prefix_rfl, rfl⟩
    rw [find?]
    split
    · rename_i hempty
      rw [List.isEmpty_iff] at hempty
      exact ⟨(hiff 0).mpr ⟨hempty, rfl⟩, fun n _ => Nat.zero_le n⟩
    · rename_i hne
      intro n hn
      exact hne (List.isEmpty_iff.mpr ((hiff n).mp hn).1)
  | cons c cs ih =>
    rw [find?]
    split
    · rename_i hstart
      exact ⟨startsAt_cons.mpr (.inl ⟨rfl, List.isPrefixOf_iff_prefix.mp hstart⟩),
        fun n _ => Nat.zero_le n⟩
    · rename_i hstart
      have hiff (n : Nat) : StartsAt pattern (c :: cs) n ↔
          ∃ m, StartsAt pattern cs m ∧ n = c.utf8Size + m := by
        rw [startsAt_cons, or_iff_right]
        rintro ⟨-, hpre⟩
        exact hstart (List.isPrefixOf_iff_prefix.mpr hpre)
      -- the answers for the rest are moved by the first character
      cases hfind : find? pattern cs with
      | none =>
        rw [hfind] at ih
        intro n hn
        obtain ⟨m, hm, -⟩ := (hiff n).mp hn
        exact ih m hm
      | some k =>
        rw [hfind] at ih
        refine ⟨(hiff _).mpr ⟨k, ih.1, rfl⟩, ?_⟩
        intro n hn
        obtain ⟨m, hm, rfl⟩ := (hiff n).mp hn
        exact Nat.add_le_add_left (ih.2 hm) _

end CompletionService.Text
