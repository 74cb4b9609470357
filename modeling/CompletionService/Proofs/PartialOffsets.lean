import CompletionService.Proofs.Stopping
import Mathlib.Data.Nat.PSub

/-!
# Operations that could fail

A step subtracts offsets, cuts texts at offsets and goes back to boundaries. Below zero, off a
boundary and before the start of a text there is nothing to give. Here the same is computed by
partial operations, which give nothing there:

* `charFloor?` — goes back from an offset, byte by byte, to a boundary;
* `heldBack?` — tries the ends of a text by cutting it at the offsets of its characters;
* `evaluateStep?` — a step made of these, with `Nat.psub` for the difference of offsets.

**None of them fails**, whatever the offsets are: `evaluateStep?_eq`.
-/

namespace CompletionService

namespace Text

variable {cs before : List Char} {offset : Nat}

/-! ## Floors -/

/-- A text can be cut at its boundaries, and nowhere else. -/
theorem isSome_dropBytes?_iff : (dropBytes? offset cs).isSome ↔ Boundary offset cs := by
  constructor
  · intro hsome
    induction cs generalizing offset with
    | nil =>
      cases offset with
      | zero => exact ⟨[], List.prefix_rfl, rfl⟩
      | succ n => exact absurd hsome (by simp [dropBytes?])
    | cons c cs ih =>
      cases offset with
      | zero => exact ⟨[], List.nil_prefix, rfl⟩
      | succ n =>
        rw [dropBytes?] at hsome
        split at hsome
        · rename_i hfits
          obtain ⟨before, hbefore, hlen⟩ := ih hsome
          refine ⟨c :: before, (List.prefix_cons_inj c).mpr hbefore, ?_⟩
          rw [byteLength_cons, hlen]
          omega
        · exact absurd hsome (by simp)
  · rintro ⟨before, ⟨after, rfl⟩, rfl⟩
    rw [dropBytes?_append, Option.isSome_some]

instance (offset : Nat) (cs : List Char) : Decidable (Boundary offset cs) :=
  decidable_of_iff _ isSome_dropBytes?_iff

/-- Goes back from an offset, byte by byte, to a boundary; nothing if there is none down to the
start. -/
def boundaryBefore? (cs : List Char) : (offset : Nat) → Option Nat
  | 0 => if Boundary 0 cs then some 0 else none
  | offset + 1 => if Boundary (offset + 1) cs then some (offset + 1) else boundaryBefore? cs offset

/-- Goes back to a boundary from an offset, or from the end of the text if the offset is past it. -/
def charFloor? (offset : Nat) (cs : List Char) : Option Nat :=
  boundaryBefore? cs (min offset (byteLength cs))

/-- Going back finds the last boundary at or before the offset. -/
theorem boundaryBefore?_eq (cs : List Char) (offset : Nat) :
    boundaryBefore? cs offset = some (charFloor offset cs) := by
  induction offset with
  | zero =>
    have hzero : Boundary 0 cs := ⟨[], List.nil_prefix, rfl⟩
    rw [boundaryBefore?, if_pos hzero, hzero.charFloor_eq]
  | succ n ih =>
    rw [boundaryBefore?]
    split
    · rename_i hboundary
      rw [hboundary.charFloor_eq]
    · rename_i hinside
      -- no boundary is lost by going one byte back
      have hgreatest : IsGreatest {m | Boundary m cs ∧ m ≤ n} (charFloor (n + 1) cs) := by
        obtain ⟨⟨hboundary, hle⟩, hupper⟩ := isGreatest_charFloor (n + 1) cs
        refine ⟨⟨hboundary, Nat.le_of_lt_succ (Nat.lt_of_le_of_ne hle ?_)⟩, ?_⟩
        · intro heq
          rw [heq] at hboundary
          exact hinside hboundary
        · rintro m ⟨hm, hmle⟩
          exact hupper ⟨hm, hmle.trans (Nat.le_succ n)⟩
      rw [ih, (isGreatest_charFloor n cs).unique hgreatest]

/-- **Floors do not fail**: going back from an offset ends, and at its floor. -/
theorem charFloor?_eq (offset : Nat) (cs : List Char) :
    charFloor? offset cs = some (charFloor offset cs) := by
  have hgreatest : IsGreatest {m | Boundary m cs ∧ m ≤ min offset (byteLength cs)}
      (charFloor offset cs) := by
    obtain ⟨⟨hboundary, hle⟩, hupper⟩ := isGreatest_charFloor offset cs
    refine ⟨⟨hboundary, Nat.le_min.mpr ⟨hle, hboundary.le⟩⟩, ?_⟩
    rintro m ⟨hm, hmle⟩
    exact hupper ⟨hm, hmle.trans (Nat.min_le_left ..)⟩
  rw [charFloor?, boundaryBefore?_eq, (isGreatest_charFloor _ cs).unique hgreatest]

/-! ## Ends of a text -/

/-- The offsets at which the characters of a text start. -/
def charOffsets : List Char → List Nat
  | [] => []
  | c :: cs => 0 :: (charOffsets cs).map (c.utf8Size + ·)

end Text

open Text

/-- The end of the text from an offset on is the start of a stop text, though not all of it; nothing
if the text cannot be cut there. -/
def startsProperlyAt? (stops : List (List Char)) (cs : List Char) (offset : Nat) : Option Bool :=
  (dropBytes? offset cs).map fun tail => stops.any (startsProperly tail)

/-- The length of the longest end of the text that is the start of a stop text, though not all of
it: from the first such end that is not longer than all stop texts. -/
def heldBack? (stops : List (List Char)) (cs : List Char) : Option Nat := do
  let start := byteLength cs - (stops.map byteLength).foldl max 0
  match ← ((charOffsets cs).filter (start ≤ ·)).findM? (startsProperlyAt? stops cs) with
  | none => return 0
  | some offset => Nat.psub (byteLength cs) offset

/-- Behind a part of the text, the first end that counts is found, and it is the longest one. -/
theorem exists_findM?_charOffsets (stops : List (List Char)) (window : Nat)
    (before cs : List Char) :
    ∃ found, (((charOffsets cs).map (byteLength before + ·)).filter
          (byteLength (before ++ cs) - window ≤ ·)).findM?
        (startsProperlyAt? stops (before ++ cs)) = some found ∧
      (∀ offset ∈ found, offset ≤ byteLength (before ++ cs)) ∧
      heldBackWithin stops window (byteLength cs) cs =
        found.elim 0 (byteLength (before ++ cs) - ·) := by
  induction cs generalizing before with
  | nil => exact ⟨none, rfl, nofun, rfl⟩
  | cons c cs ih =>
    -- the offsets behind the first character are those of the rest
    have hoffsets : (charOffsets (c :: cs)).map (byteLength before + ·) =
        byteLength before :: (charOffsets cs).map (byteLength (before ++ [c]) + ·) := by
      simp [charOffsets, Function.comp_def, Nat.add_assoc]
    have hfits : byteLength (before ++ c :: cs) - window ≤ byteLength before ↔
        byteLength (c :: cs) ≤ window := by
      rw [byteLength_append]
      omega
    have hcut : startsProperlyAt? stops (before ++ c :: cs) (byteLength before) =
        some (stops.any (startsProperly (c :: cs))) := by
      rw [startsProperlyAt?, dropBytes?_append, Option.map_some]
    have hrest : byteLength (c :: cs) - c.utf8Size = byteLength cs := Nat.add_sub_cancel_left ..
    obtain ⟨found, hfound, hle, hheld⟩ := ih (before ++ [c])
    rw [← List.append_cons] at hfound hle hheld
    rw [hoffsets, heldBackWithin, hrest]
    by_cases hroom : byteLength (c :: cs) ≤ window
    · rw [List.filter_cons_of_pos (by simpa using hfits.mpr hroom), List.findM?, hcut]
      cases hany : stops.any (startsProperly (c :: cs)) with
      | true =>
        refine ⟨some (byteLength before), rfl, ?_, ?_⟩
        · rintro offset ⟨⟩
          rw [byteLength_append]
          exact Nat.le_add_right ..
        · rw [if_pos (by rw [decide_eq_true hroom]; rfl), Option.elim_some, byteLength_append,
            Nat.add_sub_cancel_left]
      | false =>
        refine ⟨found, hfound, hle, ?_⟩
        rw [if_neg (by simp), hheld]
    · rw [List.filter_cons_of_neg (by simpa using mt hfits.mp hroom)]
      refine ⟨found, hfound, hle, ?_⟩
      rw [decide_eq_false hroom, Bool.false_and, if_neg Bool.false_ne_true, hheld]

/-- **Hold-back does not fail**: all ends that are tried start at boundaries, and none is longer
than the text. -/
theorem heldBack?_eq (stops : List (List Char)) (cs : List Char) :
    heldBack? stops cs = some (heldBack stops cs) := by
  obtain ⟨found, hfound, hle, hheld⟩ :=
    exists_findM?_charOffsets stops ((stops.map byteLength).foldl max 0) [] cs
  simp only [byteLength_nil, Nat.zero_add, List.map_id', List.nil_append] at hfound hle hheld
  rw [heldBack?, hfound, heldBack]
  cases found with
  | none => exact congrArg some hheld.symm
  | some offset => exact (Nat.psub_eq_sub (hle offset rfl)).trans (congrArg some hheld.symm)

/-- The text that is held back is a part of the text. -/
theorem heldBack_le (stops : List String) (cs : List Char) :
    heldBack (stops.map String.toList) cs ≤ byteLength cs := by
  obtain ⟨tail, ⟨kept, hsplit⟩, -, hlen⟩ := (isGreatest_heldBack stops cs).1
  rw [← hlen, ← hsplit, byteLength_append]
  exact Nat.le_add_left ..

/-! ## Steps -/

/-- What follows from the last of the tokens, by partial operations. -/
def evaluateStep? (params : SamplingParams) (eos : Option TokenId) (generated : List TokenId)
    (text : String) (budget shownBefore : Nat) : Option Step :=
  let cs := text.toList
  let stops := params.stop.map String.toList
  let pastMinimum : Bool := params.minTokens.toNat ≤ generated.length
  if pastMinimum && generated.getLast?.any (stopsOn params eos) then
    some ⟨byteLength cs, some .stop⟩
  else match if pastMinimum then firstStop stops cs else none with
    | some offset => do return ⟨← charFloor? (max offset shownBefore) cs, some .stop⟩
    | none =>
      if budget ≤ generated.length then some ⟨byteLength cs, some .length⟩
      else do
        let kept ← Nat.psub (byteLength cs) (← heldBack? stops cs)
        return ⟨← charFloor? (max kept shownBefore) cs, none⟩

/-- **Steps do not fail**, whatever the tokens, the text and the offset before are. -/
theorem evaluateStep?_eq (params : SamplingParams) (eos : Option TokenId)
    (generated : List TokenId) (text : String) (budget shownBefore : Nat) :
    evaluateStep? params eos generated text budget shownBefore =
      some (evaluateStep params eos generated text budget shownBefore) := by
  rw [evaluateStep?, evaluateStep]
  simp only [charFloor?_eq, heldBack?_eq, Nat.psub_eq_sub (heldBack_le _ _), Option.bind_eq_bind,
    Option.bind_some, Option.pure_def]
  generalize (if (params.minTokens.toNat ≤ generated.length : Bool) then
    firstStop (params.stop.map String.toList) text.toList else none) = found
  cases found with
  | some offset => split <;> rfl
  | none =>
    dsimp only
    split
    · rfl
    · split <;> rfl

end CompletionService
