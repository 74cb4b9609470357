import CompletionService.Engine.Stopping
import CompletionService.Proofs.Offset

/-!
# Stop texts and one step

Three layers:

* stop texts — `StopAt` says where one starts, and `firstStop` finds the first such offset;
* what is held back — `Pending` is an end of the text that may still become a stop text, `heldBack`
  measures the longest one, and `settled` is what is left. As a text grows its settled part grows,
  and no stop text that appears later starts inside it;
* one step — why the last token ends a generation (`EndsOnToken`, `EndsOnText`, the budget), and
  the four answers of `evaluateStep`. What a stop token is (`IsStopToken`) is said apart from the
  test that looks for one (`stopsOn_iff`).
-/

namespace CompletionService

open Text

variable {stops : List String} {cs ds tail : List Char} {offset : Nat}

/-! ## Where stop texts start -/

/-- A stop text starts at the offset; the empty one does not count. -/
def StopAt (stops : List String) (cs : List Char) (offset : Nat) : Prop :=
  ∃ stop ∈ stops, stop ≠ "" ∧ StartsAt stop.toList cs offset

/-- Where a stop text starts, it still does when the text is continued. -/
theorem StopAt.mono (h : StopAt stops cs offset) (hle : cs <+: ds) :
    StopAt stops ds offset := by
  obtain ⟨stop, hmem, hne, hstart⟩ := h
  exact ⟨stop, hmem, hne, hstart.mono hle⟩

/-- A stop text starts at a boundary. -/
theorem StopAt.boundary (h : StopAt stops cs offset) : Boundary offset cs := by
  obtain ⟨stop, -, -, hstart⟩ := h
  exact hstart.boundary

/-- A stop text takes some room. -/
theorem StopAt.lt_byteLength (h : StopAt stops cs offset) : offset < byteLength cs := by
  obtain ⟨stop, -, hne, before, hbefore, rfl⟩ := h
  have hle := byteLength_mono hbefore
  have hpos : byteLength stop.toList ≠ 0 := by
    rw [Ne, byteLength_eq_zero, String.toList_eq_nil_iff]
    exact hne
  rw [byteLength_append] at hle
  omega

/-- Before the first stop text there is none. -/
theorem not_stopAt_takeBytes {n : Nat} (hn : IsLeast {m | StopAt stops cs m} n) :
    ¬ ∃ m, StopAt stops (takeBytes n cs) m := by
  rintro ⟨m, hm⟩
  have hlt := hm.lt_byteLength
  rw [hn.1.boundary.byteLength_takeBytes] at hlt
  exact absurd (hn.2 (hm.mono (takeBytes_isPrefix n cs))) (by omega)

/-- The earlier of two finds is a find for either property. -/
theorem Text.FindsLeast.earlier {P Q : Nat → Prop} {a b : Option Nat} (ha : FindsLeast P a)
    (hb : FindsLeast Q b) : FindsLeast (fun n => P n ∨ Q n) (CompletionService.earlier a b) := by
  cases a with
  | none =>
    cases b with
    | none => exact fun n hn => hn.elim (ha n) (hb n)
    | some n => exact ⟨.inr hb.1, fun m hm => hm.elim (fun h => absurd h (ha m)) (hb.2 ·)⟩
  | some k =>
    cases b with
    | none => exact ⟨.inl ha.1, fun m hm => hm.elim (ha.2 ·) (fun h => absurd h (hb m))⟩
    | some n =>
      refine ⟨?_, fun m hm => hm.elim (fun h => (Nat.min_le_left ..).trans (ha.2 h))
        (fun h => (Nat.min_le_right ..).trans (hb.2 h))⟩
      rcases Nat.le_total k n with hle | hle
      · exact .inl (by rw [Nat.min_eq_left hle]; exact ha.1)
      · exact .inr (by rw [Nat.min_eq_right hle]; exact hb.1)

/-- The earliest of many finds, on top of one that there is already. -/
theorem findsLeast_foldl_earlier {P : Nat → Prop} {found : Option Nat} (hfound : FindsLeast P found)
    (patterns : List (List Char)) (cs : List Char) :
    FindsLeast (fun n => P n ∨ ∃ pattern ∈ patterns, StartsAt pattern cs n)
      ((patterns.map (find? · cs)).foldl earlier found) := by
  induction patterns generalizing P found with
  | nil => exact hfound.congr fun n => by simp
  | cons pattern patterns ih =>
    refine (ih (hfound.earlier (findsLeast_find? pattern cs))).congr fun n => ?_
    simp only [List.mem_cons, exists_eq_or_imp, or_assoc]

/-- **First stop**: the answer of `firstStop` is the least offset at which a stop text starts. -/
theorem findsLeast_firstStop (stops : List String) (cs : List Char) :
    FindsLeast (StopAt stops cs) (firstStop (stops.map String.toList) cs) := by
  have hnone : FindsLeast (fun _ => False) none := fun _ => id
  refine (findsLeast_foldl_earlier hnone _ cs).congr fun n => ?_
  constructor
  · rintro (hfalse | ⟨pattern, hpattern, hstart⟩)
    · exact hfalse.elim
    · obtain ⟨hmem, hne⟩ := List.mem_filter.mp hpattern
      obtain ⟨stop, hstop, rfl⟩ := List.mem_map.mp hmem
      exact ⟨stop, hstop, by rintro rfl; simp at hne, hstart⟩
  · rintro ⟨stop, hmem, hne, hstart⟩
    refine .inr ⟨stop.toList, List.mem_filter.mpr ⟨List.mem_map_of_mem hmem, ?_⟩, hstart⟩
    simpa using hne

/-- Where a stop text starts can be computed. -/
instance (stops : List String) (cs : List Char) : Decidable (∃ n, StopAt stops cs n) :=
  decidable_of_iff _ (findsLeast_firstStop stops cs).isSome_iff

/-! ## What is held back -/

/-- The end of a text may become a stop text: it is the start of one, though not all of it. -/
def Pending (stops : List String) (tail : List Char) : Prop :=
  ∃ stop ∈ stops, tail <+: stop.toList ∧ tail ≠ stop.toList

/-- What starts a pending end is pending itself. -/
theorem Pending.anti (h : Pending stops tail) (hle : cs <+: tail) : Pending stops cs := by
  obtain ⟨stop, hmem, hpre, hne⟩ := h
  refine ⟨stop, hmem, hle.trans hpre, ?_⟩
  rintro rfl
  exact hne (hpre.eq_of_length_le hle.length_le)

theorem any_startsProperly_iff (stops : List String) (tail : List Char) :
    (stops.map String.toList).any (startsProperly tail) = true ↔ Pending stops tail := by
  simp [startsProperly, Pending]

/-- A pending end is shorter than the longest stop text. -/
theorem Pending.byteLength_le {window : Nat} (h : Pending stops tail)
    (hwindow : ∀ stop ∈ stops, byteLength stop.toList ≤ window) : byteLength tail ≤ window := by
  obtain ⟨stop, hmem, hpre, -⟩ := h
  exact (byteLength_mono hpre).trans (hwindow stop hmem)

/-- The window of `heldBack` has room for every stop text. -/
theorem le_foldl_max (lengths : List Nat) (start : Nat) :
    start ≤ lengths.foldl max start ∧ ∀ n ∈ lengths, n ≤ lengths.foldl max start := by
  induction lengths generalizing start with
  | nil => simp
  | cons n lengths ih =>
    obtain ⟨hstart, hmem⟩ := ih (max start n)
    rw [List.foldl_cons]
    refine ⟨(Nat.le_max_left ..).trans hstart, fun m hm => ?_⟩
    rcases List.mem_cons.mp hm with rfl | hm
    · exact (Nat.le_max_right ..).trans hstart
    · exact hmem m hm

/-- The number of bytes at an end of the text that is empty or pending. -/
def Holds (stops : List String) (cs : List Char) (n : Nat) : Prop :=
  ∃ tail, tail <:+ cs ∧ (tail = [] ∨ Pending stops tail) ∧ byteLength tail = n

/-- Within a window that has room for the stop texts, the longest pending end is found. -/
theorem isGreatest_heldBackWithin {window : Nat}
    (hwindow : ∀ stop ∈ stops, byteLength stop.toList ≤ window) (cs : List Char) :
    IsGreatest {n | Holds stops cs n}
      (heldBackWithin (stops.map String.toList) window (byteLength cs) cs) := by
  induction cs with
  | nil =>
    refine ⟨⟨[], List.suffix_rfl, .inl rfl, rfl⟩, ?_⟩
    rintro _ ⟨tail, htail, -, rfl⟩
    rw [List.suffix_nil.mp htail, heldBackWithin, byteLength_nil]
  | cons c cs ih =>
    rw [heldBackWithin]
    split
    · -- all of the text is pending, and no end is longer
      rename_i hall
      rw [Bool.and_eq_true, any_startsProperly_iff] at hall
      refine ⟨⟨c :: cs, List.suffix_rfl, .inr hall.2, rfl⟩, ?_⟩
      rintro _ ⟨tail, ⟨before, hbefore⟩, -, rfl⟩
      rw [← hbefore, byteLength_append]
      exact Nat.le_add_left ..
    · rename_i hall
      rw [byteLength_cons, Nat.add_sub_cancel_left]
      obtain ⟨⟨tail, htail, hkind, hlen⟩, hgreatest⟩ := ih
      refine ⟨⟨tail, htail.trans (List.suffix_cons c cs), hkind, hlen⟩, ?_⟩
      rintro _ ⟨other, hother, hkind', rfl⟩
      rcases List.suffix_cons_iff.mp hother with rfl | hother
      · have hpending : Pending stops (c :: cs) := hkind'.resolve_left (List.cons_ne_nil c cs)
        refine absurd ?_ hall
        rw [Bool.and_eq_true, any_startsProperly_iff]
        exact ⟨decide_eq_true (hpending.byteLength_le hwindow), hpending⟩
      · exact hgreatest ⟨other, hother, hkind', rfl⟩

/-- **Hold-back**: `heldBack` measures the longest pending end of the text. -/
theorem isGreatest_heldBack (stops : List String) (cs : List Char) :
    IsGreatest {n | Holds stops cs n} (heldBack (stops.map String.toList) cs) := by
  refine isGreatest_heldBackWithin (fun stop hmem => ?_) cs
  exact (le_foldl_max _ 0).2 _ (List.mem_map_of_mem (List.mem_map_of_mem hmem))

/-! ### The settled part -/

/-- The length of the text that is not held back. -/
def settled (stops : List String) (cs : List Char) : Nat :=
  byteLength cs - heldBack (stops.map String.toList) cs

/-- Behind the settled part stands the pending end, if there is one. -/
theorem exists_settled_split (stops : List String) (cs : List Char) :
    ∃ kept tail, kept ++ tail = cs ∧ byteLength kept = settled stops cs ∧
      (tail = [] ∨ Pending stops tail) := by
  obtain ⟨tail, ⟨kept, hsplit⟩, hkind, hlen⟩ := (isGreatest_heldBack stops cs).1
  refine ⟨kept, tail, hsplit, ?_, hkind⟩
  rw [settled, ← hlen, ← hsplit, byteLength_append, Nat.add_sub_cancel]

/-- A pending end stands behind the settled part. -/
theorem settled_le_of_pending {kept : List Char} (h : Pending stops tail) :
    settled stops (kept ++ tail) ≤ byteLength kept := by
  have hle := (isGreatest_heldBack stops (kept ++ tail)).2
    ⟨tail, List.suffix_append kept tail, .inr h, rfl⟩
  rw [settled, byteLength_append]
  omega

theorem settled_le (stops : List String) (cs : List Char) : settled stops cs ≤ byteLength cs :=
  Nat.sub_le ..

@[simp] theorem settled_nil (stops : List String) : settled stops [] = 0 :=
  Nat.le_zero.mp (settled_le stops [])

/-- The settled part ends at a boundary. -/
theorem boundary_settled (stops : List String) (cs : List Char) :
    Boundary (settled stops cs) cs := by
  obtain ⟨kept, tail, rfl, hlen, -⟩ := exists_settled_split stops cs
  exact ⟨kept, List.prefix_append kept tail, hlen⟩

/-- **What is settled stays settled**: no end that starts before the settled part ends becomes
pending when the text is continued. -/
theorem settled_mono (h : cs <+: ds) : settled stops cs ≤ settled stops ds := by
  obtain ⟨kept, tail, hsplit, hlen, hkind⟩ := exists_settled_split stops ds
  rw [← hlen]
  rcases Nat.le_total (byteLength cs) (byteLength kept) with hle | hle
  · exact (settled_le stops cs).trans hle
  · have hkept : kept <+: ds := ⟨tail, hsplit⟩
    obtain ⟨rest, rfl⟩ := prefix_of_byteLength_le hkept h hle
    -- what `cs` has behind `kept` starts the pending end of `ds`
    have hrest : rest <+: tail := by
      rw [← hsplit] at h
      exact (List.prefix_append_right_inj kept).mp h
    rcases hkind with rfl | hpending
    · rw [List.prefix_nil.mp hrest, List.append_nil]
      exact settled_le stops kept
    · exact settled_le_of_pending (hpending.anti hrest)

/-- **Nothing settled is cut**: a stop text that the text holds only once it is continued starts
behind the settled part. -/
theorem settled_le_of_stopAt (h : cs <+: ds) (hfree : ¬ ∃ n, StopAt stops cs n)
    (hstop : StopAt stops ds offset) : settled stops cs ≤ offset := by
  obtain ⟨stop, hmem, hne, before, hbefore, rfl⟩ := hstop
  rcases Nat.le_total (byteLength cs) (byteLength before) with hle | hle
  · exact (settled_le stops cs).trans hle
  · have hpre : before <+: ds := (List.prefix_append before stop.toList).trans hbefore
    obtain ⟨rest, rfl⟩ := prefix_of_byteLength_le hpre h hle
    -- either the stop text is in `cs` already, or `cs` ends inside of it
    rcases List.prefix_or_prefix_of_prefix hbefore h with hin | hin
    · exact absurd ⟨_, stop, hmem, hne, before, hin, rfl⟩ hfree
    · refine settled_le_of_pending ⟨stop, hmem, (List.prefix_append_right_inj before).mp hin, ?_⟩
      rintro rfl
      exact hfree ⟨_, stop, hmem, hne, before, List.prefix_rfl, rfl⟩

/-! ### Stop texts inside stop texts -/

/-- No stop text is a part of another one. -/
def Unnested (stops : List String) : Prop :=
  ∀ stop ∈ stops, ∀ other ∈ stops, stop ≠ "" → stop ≠ other → ¬ stop.toList <:+: other.toList

instance (stops : List String) : Decidable (Unnested stops) :=
  inferInstanceAs (Decidable (∀ stop ∈ stops, ∀ other ∈ stops, _))

/-- If no stop text is a part of another one, the first stop of a text stays the first when the
text is continued: a stop text that starts before it and ends behind the text would have it
inside. -/
theorem Unnested.isLeast_mono {n : Nat} (hstops : Unnested stops) (h : cs <+: ds)
    (hn : IsLeast {m | StopAt stops cs m} n) : IsLeast {m | StopAt stops ds m} n := by
  refine ⟨hn.1.mono h, fun m hm => ?_⟩
  by_contra hlt
  obtain ⟨stop, hmem, hne, before, hbefore, rfl⟩ := hm
  obtain ⟨inner, hinner, hinnerne, start, hstart, rfl⟩ := hn.1
  rcases List.prefix_or_prefix_of_prefix hbefore h with hin | hin
  · exact hlt (hn.2 ⟨stop, hmem, hne, before, hin, rfl⟩)
  · have hpre : before <+: start :=
      prefix_of_byteLength_le ((List.prefix_append before _).trans hbefore)
        ((List.prefix_append start _).trans (hstart.trans h)) (by omega)
    obtain ⟨between, rfl⟩ := hpre
    have hpart : between ++ inner.toList <+: stop.toList := by
      have := hstart.trans hin
      rwa [List.append_assoc, List.prefix_append_right_inj] at this
    refine hstops inner hinner stop hmem hinnerne ?_ ((List.suffix_append ..).isInfix.trans
      hpart.isInfix)
    -- the two do not start at the same offset
    rintro rfl
    have hlen := byteLength_mono hpart
    rw [byteLength_append] at hlen hlt
    omega

/-! ## One step -/

section Step

variable (params : SamplingParams) (eos : Option TokenId) (budget : Nat)

/-- The token is one to stop at: the end of the sequence, which is not ignored, or one of the stop
tokens of the request. -/
def IsStopToken (token : TokenId) : Prop :=
  (params.ignoreEos = false ∧ eos = some token) ∨ token ∈ params.stopTokenIds

/-- The last token ends the generation, which is long enough for that. -/
def EndsOnToken (generated : List TokenId) : Prop :=
  params.minTokens.toNat ≤ generated.length ∧
    ∃ token ∈ generated.getLast?, IsStopToken params eos token

/-- A stop text in the text ends the generation, which is long enough for that. -/
def EndsOnText (generated : List TokenId) (text : String) : Prop :=
  params.minTokens.toNat ≤ generated.length ∧ ∃ n, StopAt params.stop text.toList n

/-- The generation ends with its last token. -/
def Ends (generated : List TokenId) (text : String) : Prop :=
  EndsOnToken params eos generated ∨ EndsOnText params generated text ∨ budget ≤ generated.length

instance (token : TokenId) : Decidable (IsStopToken params eos token) :=
  inferInstanceAs (Decidable (_ ∨ _))

instance (generated : List TokenId) : Decidable (EndsOnToken params eos generated) :=
  inferInstanceAs (Decidable (_ ∧ _))

instance (generated : List TokenId) (text : String) :
    Decidable (EndsOnText params generated text) :=
  inferInstanceAs (Decidable (_ ∧ _))

instance (generated : List TokenId) (text : String) :
    Decidable (Ends params eos budget generated text) :=
  inferInstanceAs (Decidable (_ ∨ _ ∨ _))

variable {params eos budget} {generated : List TokenId} {text : String} {shownBefore n : Nat}

/-- A step stops at these tokens. -/
theorem stopsOn_iff {token : TokenId} :
    stopsOn params eos token = true ↔ IsStopToken params eos token := by
  simp [stopsOn, IsStopToken, @eq_comm _ eos]

/-- The first test of a step asks for a token that ends the generation. -/
theorem endsOnToken_iff :
    (decide (params.minTokens.toNat ≤ generated.length) &&
        generated.getLast?.any (stopsOn params eos)) = true ↔
      EndsOnToken params eos generated := by
  simp only [EndsOnToken, Bool.and_eq_true, decide_eq_true_iff, Option.any_eq_true, stopsOn_iff,
    Option.mem_def]

/-- A stop token releases all text. -/
theorem evaluateStep_of_token (h : EndsOnToken params eos generated) :
    evaluateStep params eos generated text budget shownBefore =
      ⟨byteLength text.toList, some .stop⟩ := by
  rw [evaluateStep, if_pos (endsOnToken_iff.mpr h)]

/-- A stop text is cut off, unless it has been shown. -/
theorem evaluateStep_of_text (htoken : ¬ EndsOnToken params eos generated)
    (hmin : params.minTokens.toNat ≤ generated.length)
    (hn : IsLeast {m | StopAt params.stop text.toList m} n) :
    evaluateStep params eos generated text budget shownBefore =
      ⟨charFloor (max n shownBefore) text.toList, some .stop⟩ := by
  rw [evaluateStep, if_neg (mt endsOnToken_iff.mp htoken)]
  simp only [decide_eq_true_eq, if_pos hmin, (findsLeast_firstStop _ _).eq_some hn]

/-- Without a stop text that counts, only the budget matters. -/
theorem evaluateStep_of_not_text (htoken : ¬ EndsOnToken params eos generated)
    (htext : ¬ EndsOnText params generated text) :
    evaluateStep params eos generated text budget shownBefore =
      if budget ≤ generated.length then ⟨byteLength text.toList, some .length⟩
      else ⟨charFloor (max (settled params.stop text.toList) shownBefore) text.toList, none⟩ := by
  have hnone : (if (params.minTokens.toNat ≤ generated.length : Bool) then
      firstStop (params.stop.map String.toList) text.toList else none) = none := by
    split
    · rename_i hmin
      rw [← Option.not_isSome_iff_eq_none, (findsLeast_firstStop _ _).isSome_iff]
      exact fun hstop => htext ⟨of_decide_eq_true hmin, hstop⟩
    · rfl
  rw [evaluateStep, if_neg (mt endsOnToken_iff.mp htoken)]
  simp only [hnone, settled]

/-- At the end of the budget all text is released. -/
theorem evaluateStep_of_budget (htoken : ¬ EndsOnToken params eos generated)
    (htext : ¬ EndsOnText params generated text) (hbudget : budget ≤ generated.length) :
    evaluateStep params eos generated text budget shownBefore =
      ⟨byteLength text.toList, some .length⟩ := by
  rw [evaluateStep_of_not_text htoken htext, if_pos hbudget]

/-- A generation that does not end shows what is settled, and what was shown before. -/
theorem evaluateStep_of_not_ends (h : ¬ Ends params eos budget generated text) :
    evaluateStep params eos generated text budget shownBefore =
      ⟨charFloor (max (settled params.stop text.toList) shownBefore) text.toList, none⟩ := by
  simp only [Ends, not_or] at h
  rw [evaluateStep_of_not_text h.1 h.2.1, if_neg h.2.2]

/-- **Verdict**: a step names a reason exactly if the generation ends with its last token, whatever
was shown before. -/
theorem isSome_finish?_iff :
    (evaluateStep params eos generated text budget shownBefore).finish?.isSome ↔
      Ends params eos budget generated text := by
  by_cases htoken : EndsOnToken params eos generated
  · simp [evaluateStep_of_token htoken, Ends, htoken]
  · by_cases htext : EndsOnText params generated text
    · obtain ⟨n, -, hn⟩ := (findsLeast_firstStop _ _).exists_eq_some htext.2.choose_spec
      simp [evaluateStep_of_text htoken htext.1 hn, Ends, htext]
    · rw [evaluateStep_of_not_text htoken htext, Ends]
      split <;> simp [*]

end Step

end CompletionService
