import CompletionService.Proofs.Decoding
import CompletionService.Proofs.PartialOffsets
import Mathlib.Data.List.Chain

/-!
# What a generation shows

Moments that follow one another: each evaluates its step with the visible length of the moment
before. Three layers, from any texts to texts that only grow:

* one step — `boundary_visible` and `le_visible`: whatever the offset before, what is visible ends
  at a boundary, and not before an offset that was a boundary;
* moments that follow one another (`Follows`) — as long as each text starts with what was shown
  before, **what is shown grows** (`visible_inside_and_growing`);
* generations (`Generation`) — texts grow, and nothing follows the moment that ends them. **The
  visible length is stateless** (`visible_eq_of_unfinished`), and **only a stop token shows a stop
  text** (`stop_text_shown_iff`).

The runs over scripts are generations (`generation_run`).
-/

namespace CompletionService

open Text

/-! ## One step -/

section Step

variable (params : SamplingParams) (eos : Option TokenId) (budget : Nat)
  (generated : List TokenId) (text : String) {shownBefore : Nat}

/-- All text is visible, or the text up to an offset that is not before the one of the step
before. -/
theorem visible_cases (shownBefore : Nat) :
    let step := evaluateStep params eos generated text budget shownBefore
    step.visible = byteLength text.toList ∨
      ∃ offset, shownBefore ≤ offset ∧ step.visible = charFloor offset text.toList := by
  intro step
  by_cases htoken : EndsOnToken params eos generated
  · exact .inl (congrArg Step.visible (evaluateStep_of_token htoken))
  by_cases htext : EndsOnText params generated text
  · obtain ⟨n, -, hn⟩ := (findsLeast_firstStop _ _).exists_eq_some htext.2.choose_spec
    exact .inr ⟨_, Nat.le_max_right n _,
      congrArg Step.visible (evaluateStep_of_text htoken htext.1 hn)⟩
  by_cases hbudget : budget ≤ generated.length
  · exact .inl (congrArg Step.visible (evaluateStep_of_budget htoken htext hbudget))
  · have hopen : ¬ Ends params eos budget generated text := by
      rintro (h | h | h)
      · exact htoken h
      · exact htext h
      · exact hbudget h
    exact .inr ⟨_, Nat.le_max_right _ _, congrArg Step.visible (evaluateStep_of_not_ends hopen)⟩

/-- What is visible ends at a boundary. -/
theorem boundary_visible (shownBefore : Nat) :
    Boundary (evaluateStep params eos generated text budget shownBefore).visible text.toList := by
  rcases visible_cases params eos budget generated text shownBefore with h | ⟨offset, -, h⟩
  · rw [h]
    exact boundary_byteLength _
  · rw [h]
    exact boundary_charFloor ..

/-- What was visible up to a boundary stays visible. -/
theorem le_visible (h : Boundary shownBefore text.toList) :
    shownBefore ≤ (evaluateStep params eos generated text budget shownBefore).visible := by
  rcases visible_cases params eos budget generated text shownBefore with hall | ⟨offset, hle, hfloor⟩
  · rw [hall]
    exact h.le
  · rw [hfloor]
    exact (isGreatest_charFloor offset text.toList).2 ⟨h, hle⟩

end Step

namespace Decoding

/-! ## Moments that follow one another -/

/-- Before the first token nothing is visible. -/
def Moment.start : Moment := ⟨[], "", ⟨0, none⟩⟩

/-- What a moment shows starts what another one shows. -/
def Moment.ShownIn (m m' : Moment) : Prop := m.shown <+: m'.shown

instance : Trans Moment.ShownIn Moment.ShownIn Moment.ShownIn := ⟨List.IsPrefix.trans⟩

variable (params : SamplingParams) (eos : Option TokenId) (budget : Nat)

/-- The step of a moment is evaluated with the visible length of the one before. -/
def Follows (m m' : Moment) : Prop :=
  m'.step = evaluateStep params eos m'.tokenIds m'.text budget m.step.visible

/-- A moment goes on: it does not end the generation, and the text of the next one continues its
text. -/
structure Continues (m m' : Moment) : Prop where
  follows : Follows params eos budget m m'
  unfinished : m.step.finish? = none
  grows : m.text.toList <+: m'.text.toList

/-- The moments of a generation, from its start up to the first that ends it. -/
def Generation (moments : List Moment) : Prop :=
  (Moment.start :: moments).IsChain (Continues params eos budget)

variable {params eos budget} {m m' : Moment} {moments : List Moment}

/-- What a moment that follows another one makes visible ends at a boundary. -/
theorem Follows.boundary (h : Follows params eos budget m m') :
    Boundary m'.step.visible m'.text.toList := by
  rw [h]
  exact boundary_visible ..

/-- **Step**: if a text starts with what was shown before, what is shown grows. -/
theorem Follows.shownIn (h : Follows params eos budget m m')
    (hm : Boundary m.step.visible m.text.toList) (hpre : m.shown <+: m'.text.toList) :
    m.ShownIn m' := by
  have hlen : byteLength m.shown = m.step.visible := hm.byteLength_takeBytes
  have hle : m.step.visible ≤ m'.step.visible := by
    rw [h]
    exact le_visible params eos budget m'.tokenIds m'.text ⟨m.shown, hpre, hlen⟩
  refine prefix_of_byteLength_le hpre m'.shown_isPrefix ?_
  calc byteLength m.shown
      = m.step.visible := hlen
    _ ≤ m'.step.visible := hle
    _ = byteLength m'.shown := h.boundary.byteLength_takeBytes.symm

/-- **Run**: if each text starts with what was shown before, what is shown grows. -/
theorem pairwise_shownIn (h : (Moment.start :: moments).IsChain fun m m' =>
      Follows params eos budget m m' ∧ m.shown <+: m'.text.toList) :
    (Moment.start :: moments).Pairwise Moment.ShownIn := by
  have hboundary : ∀ m ∈ Moment.start :: moments, Boundary m.step.visible m.text.toList := by
    refine h.induction (fun m => Boundary m.step.visible m.text.toList) _ ?_ ?_
    · intro m m' hstep _
      exact hstep.1.boundary
    · intro _
      exact ⟨[], List.nil_prefix, rfl⟩
  refine List.isChain_iff_pairwise.mp (h.imp_of_mem_imp ?_)
  intro m m' hm _ hstep
  exact hstep.1.shownIn (hboundary m hm) hstep.2

/-- **Visible lengths are safe, and what is shown grows.** Whatever a step is asked about, even if
the offset before is past the text or inside a character, none of its operations fails, and what is
visible ends at a boundary of the text. If the offset before is a boundary as well, it is not passed
backwards. So as long as each text starts with what was shown before, though its end may be another
one, what is shown grows, whether or not a step ends the generation. -/
theorem visible_inside_and_growing (params : SamplingParams) (eos : Option TokenId) (budget : Nat) :
    (∀ (generated : List TokenId) (text : String) (shownBefore : Nat),
      let step := evaluateStep params eos generated text budget shownBefore
      evaluateStep? params eos generated text budget shownBefore = some step ∧
        step.visible ≤ byteLength text.toList ∧ Boundary step.visible text.toList ∧
        (Boundary shownBefore text.toList → shownBefore ≤ step.visible)) ∧
    ∀ moments : List Moment, (Moment.start :: moments).IsChain (fun m m' =>
        Follows params eos budget m m' ∧ m.shown <+: m'.text.toList) →
      (Moment.start :: moments).Pairwise fun m m' => m.shown <+: m'.shown := by
  refine ⟨fun generated text shownBefore => ⟨?_, ?_, ?_, ?_⟩, fun moments h => pairwise_shownIn h⟩
  · exact evaluateStep?_eq ..
  · exact (boundary_visible params eos budget generated text shownBefore).le
  · exact boundary_visible ..
  · exact le_visible params eos budget generated text

/-- A text whose end `E` was held back and turns out to be `é`. -/
theorem visible_inside_and_growing_rewritten :
    let params := { SamplingParams.default with stop := ["END"] }
    let moments : List Moment := [⟨[1], "aE", ⟨1, none⟩⟩, ⟨[1, 2], "aé", ⟨3, none⟩⟩,
      ⟨[1, 2, 3], "aé!", ⟨4, some .length⟩⟩]
    (Moment.start :: moments).IsChain (fun m m' =>
        Follows params none 3 m m' ∧ m.shown <+: m'.text.toList) ∧
      (Moment.start :: moments).Pairwise fun m m' => m.shown <+: m'.shown := by
  intro params moments
  have hchain : (Moment.start :: moments).IsChain fun m m' =>
      Follows params none 3 m m' ∧ m.shown <+: m'.text.toList :=
    .cons_cons ⟨rfl, by decide⟩ (.cons_cons ⟨rfl, by decide⟩ (.cons_cons ⟨rfl, by decide⟩
      (.singleton _)))
  exact ⟨hchain, (visible_inside_and_growing params none 3).2 moments hchain⟩

/-! ## Generations -/

/-- The moments of a run over a script follow one another. -/
theorem isChain_runFrom (script : Script) (hopen : m.step.finish? = none) :
    (m :: runFrom params eos budget m.tokenIds m.text m.step.visible script).IsChain
      (Continues params eos budget) := by
  induction script generalizing m with
  | nil => exact .singleton m
  | cons head rest ih =>
    obtain ⟨token, piece⟩ := head
    let next : Moment := ⟨m.tokenIds ++ [token], m.text ++ piece,
      evaluateStep params eos (m.tokenIds ++ [token]) (m.text ++ piece) budget m.step.visible⟩
    have hnext : Continues params eos budget m next := by
      refine ⟨rfl, hopen, ?_⟩
      rw [String.toList_append]
      exact List.prefix_append ..
    rw [runFrom]
    cases hfinish : next.step.finish? with
    | some reason => exact .cons_cons hnext (.singleton next)
    | none => exact .cons_cons hnext (ih hfinish)

/-- **Runs are generations.** -/
theorem generation_run (params : SamplingParams) (eos : Option TokenId) (budget : Nat)
    (script : Script) : Generation params eos budget (run params eos budget script) :=
  isChain_runFrom (m := .start) script rfl

/-- The shown texts of a generation grow. -/
theorem Generation.pairwise_shownIn (h : Generation params eos budget moments) :
    (Moment.start :: moments).Pairwise Moment.ShownIn :=
  Decoding.pairwise_shownIn (List.IsChain.imp
    (fun m _ hstep => ⟨hstep.follows, m.shown_isPrefix.trans hstep.grows⟩) h)

/-! ### The visible length is stateless -/

/-- **Step**: from a moment that shows what has settled, the next one that does not end the
generation does so as well. -/
theorem Continues.visible_eq (h : Continues params eos budget m m')
    (hm : m.step.visible = settled params.stop m.text.toList) (hopen : m'.step.finish? = none) :
    m'.step.visible = settled params.stop m'.text.toList := by
  have hends : ¬ Ends params eos budget m'.tokenIds m'.text := by
    rw [← isSome_finish?_iff, ← h.follows, hopen]
    exact Bool.false_ne_true
  rw [h.follows, evaluateStep_of_not_ends hends, hm, Nat.max_eq_left (settled_mono h.grows),
    (boundary_settled ..).charFloor_eq]

/-- **Run**: a moment that does not end the generation shows what has settled. -/
theorem Generation.visible_eq (h : Generation params eos budget moments) :
    ∀ m ∈ Moment.start :: moments, m.step.finish? = none →
      m.step.visible = settled params.stop m.text.toList := by
  refine List.IsChain.induction
    (fun m => m.step.finish? = none → m.step.visible = settled params.stop m.text.toList) _ h ?_ ?_
  · intro m m' hstep hm
    exact hstep.visible_eq (hm hstep.unfinished)
  · intro _ _
    exact (settled_nil params.stop).symm

/-- Up to the settled part the text is shown, and the rest is what is held back. -/
theorem exists_hidden (h : m.step.visible = settled params.stop m.text.toList) :
    ∃ hidden, m.shown ++ hidden = m.text.toList ∧
      byteLength hidden = heldBack (params.stop.map String.toList) m.text.toList ∧
      (hidden = [] ∨ Pending params.stop hidden) := by
  obtain ⟨kept, hidden, hsplit, hkept, hkind⟩ := exists_settled_split params.stop m.text.toList
  have hshown : m.shown = kept := by
    rw [Moment.shown, h, ← hkept, ← hsplit, takeBytes_append]
  have hlen := congrArg byteLength hsplit
  have hle := heldBack_le params.stop m.text.toList
  rw [byteLength_append, hkept, settled] at hlen
  exact ⟨hidden, hshown ▸ hsplit, by omega, hkind⟩

/-- **The visible length is stateless.** In a generation, a moment that does not end it makes the
text visible up to what is held back, which is empty or may become a stop text. Neither the offset
before nor the floor make a difference. So what is shown depends on the text and the stop texts
alone, in whatever way the text came about, and it only grows. -/
theorem visible_eq_of_unfinished (h : Generation params eos budget moments) :
    (∀ m ∈ moments, m.step.finish? = none →
      m.step.visible = byteLength m.text.toList -
          heldBack (params.stop.map String.toList) m.text.toList ∧
        ∃ hidden, m.shown ++ hidden = m.text.toList ∧
          byteLength hidden = heldBack (params.stop.map String.toList) m.text.toList ∧
          (hidden = [] ∨ Pending params.stop hidden)) ∧
    (Moment.start :: moments).IsChain (fun m m' => m'.step.finish? = none →
      let mark := byteLength m'.text.toList -
        heldBack (params.stop.map String.toList) m'.text.toList
      max mark m.step.visible = mark ∧ charFloor mark m'.text.toList = mark) ∧
    (∀ (params' : SamplingParams) (eos' : Option TokenId) (budget' : Nat) (moments' : List Moment),
      params'.stop = params.stop → Generation params' eos' budget' moments' →
      ∀ m ∈ moments, ∀ m' ∈ moments', m.step.finish? = none → m'.step.finish? = none →
        m.text = m'.text → m.shown = m'.shown) ∧
    moments.Pairwise fun m m' => m.shown <+: m'.shown := by
  refine ⟨?_, ?_, ?_, ?_⟩
  · intro m hmem hopen
    have hvisible := h.visible_eq m (List.mem_cons_of_mem _ hmem) hopen
    exact ⟨hvisible, exists_hidden hvisible⟩
  · refine List.IsChain.imp_of_mem_imp ?_ h
    intro m m' hmem _ hstep _
    rw [h.visible_eq m hmem hstep.unfinished]
    exact ⟨Nat.max_eq_left (settled_mono hstep.grows), (boundary_settled ..).charFloor_eq⟩
  · intro params' eos' budget' moments' hstops h' m hmem m' hmem' hopen hopen' htext
    rw [Moment.shown, Moment.shown, h.visible_eq m (List.mem_cons_of_mem _ hmem) hopen,
      h'.visible_eq m' (List.mem_cons_of_mem _ hmem') hopen', hstops, htext]
  · exact (List.pairwise_cons.mp h.pairwise_shownIn).2

/-- The stop text `END` is complete before the least number of tokens, and shown; when it ends the
generation it is not withdrawn. -/
theorem visible_eq_of_unfinished_minimum :
    let params := { SamplingParams.default with stop := ["", "END"], minTokens := 3 }
    let moments := run params none 9 [(1, "x E"), (2, "NDé E"), (3, "N")]
    Generation params none 9 moments ∧
      moments.map (·.step) = [⟨2, none⟩, ⟨8, none⟩, ⟨8, some .stop⟩] ∧
      (∀ m ∈ moments, m.step.finish? = none →
        m.step.visible = byteLength m.text.toList -
          heldBack (params.stop.map String.toList) m.text.toList) ∧
      moments.Pairwise fun m m' => m.shown <+: m'.shown := by
  intro params moments
  have hgeneration : Generation params none 9 moments := generation_run ..
  have hsteps : moments.map (·.step) = [⟨2, none⟩, ⟨8, none⟩, ⟨8, some .stop⟩] := by
    decide +kernel
  obtain ⟨hvisible, -, -, hgrows⟩ := visible_eq_of_unfinished hgeneration
  exact ⟨hgeneration, hsteps, fun m hmem hopen => (hvisible m hmem hopen).1, hgrows⟩

/-! ### Stop texts that are shown -/

/-- What is known of a moment of a generation that may end with its first token: a stop text is
shown only if a stop token ends the generation, and a moment that goes on has no stop text. -/
structure Moment.Guarded (params : SamplingParams) (eos : Option TokenId) (m : Moment) : Prop where
  shown_iff : (∃ n, StopAt params.stop m.shown n) ↔
    EndsOnToken params eos m.tokenIds ∧ ∃ n, StopAt params.stop m.text.toList n
  settled : m.step.finish? = none → m.step.visible = settled params.stop m.text.toList
  free : m.step.finish? = none → ¬ ∃ n, StopAt params.stop m.text.toList n

namespace Moment.Guarded

/-- Before the first token there is no text. -/
theorem start : Moment.start.Guarded params eos := by
  have hfree : ¬ ∃ n, StopAt params.stop [] n := by
    rintro ⟨n, hn⟩
    exact absurd hn.lt_byteLength (Nat.not_lt_zero n)
  refine ⟨⟨fun hshown => absurd hshown hfree, fun h => absurd h.2 hfree⟩, fun _ => ?_,
    fun _ => hfree⟩
  exact (settled_nil params.stop).symm

/-- A moment whose text has no stop text shows none. -/
theorem shown_iff_of_free (hfree : ¬ ∃ n, StopAt params.stop m.text.toList n) :
    (∃ n, StopAt params.stop m.shown n) ↔
      EndsOnToken params eos m.tokenIds ∧ ∃ n, StopAt params.stop m.text.toList n := by
  constructor
  · rintro ⟨n, hn⟩
    exact absurd ⟨n, hn.mono m.shown_isPrefix⟩ hfree
  · rintro ⟨-, h⟩
    exact absurd h hfree

/-- **Step**: a moment with a token keeps what is known. -/
theorem step (hmin : params.minTokens ≤ 1) (hm : m.Guarded params eos)
    (h : Continues params eos budget m m') (hids : m'.tokenIds ≠ []) : m'.Guarded params eos := by
  have hpast : params.minTokens.toNat ≤ m'.tokenIds.length :=
    (UInt64.le_iff_toNat_le.mp hmin).trans (List.length_pos_iff.mpr hids)
  by_cases htoken : EndsOnToken params eos m'.tokenIds
  · -- all text is shown
    have hstep := h.follows.trans (evaluateStep_of_token htoken)
    have hshown : m'.shown = m'.text.toList := by
      rw [Moment.shown, hstep, takeBytes_eq_of_isPrefix List.prefix_rfl]
    have hends : m'.step.finish? ≠ none := by
      rw [hstep]
      exact Option.some_ne_none _
    refine ⟨?_, fun hopen => absurd hopen hends, fun hopen => absurd hopen hends⟩
    rw [hshown, and_iff_right htoken]
  by_cases hstop : ∃ n, StopAt params.stop m'.text.toList n
  · -- the text is shown up to the first stop text, before which nothing had settled
    obtain ⟨n, -, hn⟩ := (findsLeast_firstStop _ _).exists_eq_some hstop.choose_spec
    have hstep := h.follows.trans (evaluateStep_of_text htoken hpast hn)
    have hle : m.step.visible ≤ n := by
      rw [hm.settled h.unfinished]
      exact settled_le_of_stopAt h.grows (hm.free h.unfinished) hn.1
    rw [Nat.max_eq_left hle, hn.1.boundary.charFloor_eq] at hstep
    have hends : m'.step.finish? ≠ none := by
      rw [hstep]
      exact Option.some_ne_none _
    refine ⟨⟨fun hshown => ?_, fun hboth => absurd hboth.1 htoken⟩,
      fun hopen => absurd hopen hends, fun hopen => absurd hopen hends⟩
    rw [Moment.shown, hstep] at hshown
    exact absurd hshown (not_stopAt_takeBytes hn)
  · exact ⟨shown_iff_of_free hstop, h.visible_eq (hm.settled h.unfinished), fun _ => hstop⟩

end Moment.Guarded

/-- **Run**: in a generation that may end with its first token, all moments are guarded. -/
theorem Generation.guarded (h : Generation params eos budget moments) (hmin : params.minTokens ≤ 1)
    (hids : ∀ m ∈ moments, m.tokenIds ≠ []) :
    ∀ m ∈ moments, m.Guarded params eos := by
  have hchain : (Moment.start :: moments).IsChain fun m m' =>
      Continues params eos budget m m' ∧ m'.tokenIds ≠ [] :=
    List.IsChain.imp_of_mem_tail_imp (fun _ m' _ hmem hstep => ⟨hstep, hids m' hmem⟩) h
  refine hchain.cons_induction (Moment.Guarded params eos) moments ?_ .start
  intro m m' hstep hm
  exact hm.step hmin hstep.1 hstep.2

/-- **Only a stop token shows a stop text.** In a generation that may end with its first token, a
moment shows a stop text exactly if a stop token ends the generation there, in a text that has one.
Stop texts and the budget show none, and neither do the moments before the end. -/
theorem stop_text_shown_iff (hmin : params.minTokens ≤ 1)
    (h : Generation params eos budget moments) (hids : ∀ m ∈ moments, m.tokenIds ≠ []) :
    ∀ m ∈ moments, (∃ n, StopAt params.stop m.shown n) ↔
      EndsOnToken params eos m.tokenIds ∧ ∃ n, StopAt params.stop m.text.toList n := by
  intro m hmem
  exact (h.guarded hmin hids m hmem).shown_iff

/-- A stop token releases what may become the stop text `END`, and nothing more. -/
theorem stop_text_shown_iff_released :
    let params := { SamplingParams.default with stop := ["END"], stopTokenIds := [7] }
    let moments := run params none 9 [(1, "x E"), (7, "N")]
    params.minTokens ≤ 1 ∧ (∀ m ∈ moments, m.tokenIds ≠ []) ∧
      moments.map (·.shown) = ["x ".toList, "x EN".toList] ∧
      ∀ m ∈ moments, ¬ ∃ n, StopAt params.stop m.shown n := by
  intro params moments
  have hmin : params.minTokens ≤ 1 := by decide
  have hids : ∀ m ∈ moments, m.tokenIds ≠ [] := by decide
  have hfree : ∀ m ∈ moments, ¬ ∃ n, StopAt params.stop m.text.toList n := by decide
  refine ⟨hmin, hids, by decide, fun m hmem hshown => hfree m hmem ?_⟩
  exact ((stop_text_shown_iff hmin (generation_run params none 9 _) hids m hmem).mp hshown).2

/-- **A stop token shows a stop text.** The token that completes the stop text `END`, the start of
which was held back, is a stop token: all of the stop text is shown. -/
theorem stop_token_shows_stop_text :
    let params := { SamplingParams.default with stop := ["END"], stopTokenIds := [7] }
    let moments := run params none 9 [(1, "x EN"), (7, "D")]
    params.minTokens ≤ 1 ∧ Generation params none 9 moments ∧
      moments.map (·.step) = [⟨2, none⟩, ⟨5, some .stop⟩] ∧
      ∃ m ∈ moments, ∃ n, StopAt params.stop m.shown n := by
  intro params moments
  exact ⟨by decide, generation_run .., rfl, by decide⟩

end Decoding

end CompletionService
