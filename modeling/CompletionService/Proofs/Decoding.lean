import CompletionService.Engine.TokenModel
import CompletionService.Proofs.Stopping

/-!
# Runs of decoding

A run evaluates one step after the other over a script of tokens, each with the visible length of
the step before, up to the first step that ends the generation.

* `run` — the moments of a run, which are those behind the events of a `TokenModel`.
* `momentAfter` — the moment after so many tokens, computed from the script alone. **A run has no
  memory**: its moments are these, since before the end the visible length is always the settled
  one.
* What follows for stop texts: they are cut where they start, nothing of them was shown before, and
  how a text is split into tokens does not matter.
-/

namespace CompletionService

open Text

/-! ## Scripts -/

/-- What a model produces: tokens, each with its piece of text. -/
abbrev Script := List (TokenId × String)

namespace Script

/-- The tokens alone. -/
def ids (script : Script) : List TokenId := script.map (·.1)

/-- The whole text. -/
def text (script : Script) : String := String.join (script.map (·.2))

variable (script : Script)

@[simp] theorem length_ids : (ids script).length = script.length := List.length_map ..

@[simp] theorem text_nil : text [] = "" := String.join_nil

@[simp] theorem ids_concat (token : TokenId) (piece : String) :
    ids (script ++ [(token, piece)]) = ids script ++ [token] := by
  simp [ids]

@[simp] theorem text_concat (token : TokenId) (piece : String) :
    text (script ++ [(token, piece)]) = text script ++ piece := by
  simp [text]

/-- The text grows with the number of tokens. -/
theorem text_take_mono {j k : Nat} (h : j ≤ k) :
    (text (script.take j)).toList <+: (text (script.take k)).toList := by
  obtain ⟨rest, hrest⟩ := List.take_prefix_take_left (l := script) h
  rw [← hrest, text, text, List.map_append, String.join_append, String.toList_append]
  exact List.prefix_append ..

end Script

namespace Decoding

/-! ## Runs -/

/-- A moment of a run: tokens and text so far, and what follows from the last token. -/
structure Moment where
  tokenIds : List TokenId
  text : String
  step : Step

/-- The text that may be shown. -/
def Moment.shown (m : Moment) : List Char := takeBytes m.step.visible m.text.toList

/-- What may be shown starts the text. -/
theorem Moment.shown_isPrefix (m : Moment) : m.shown <+: m.text.toList := takeBytes_isPrefix ..

/-- No more is shown than is visible. -/
theorem Moment.byteLength_shown_le (m : Moment) : byteLength m.shown ≤ m.step.visible := by
  rw [shown, Text.byteLength_takeBytes]
  exact charFloor_le_offset ..

section

variable (params : SamplingParams) (eos : Option TokenId) (budget : Nat)

/-- The moments of the tokens that come after `generated`, whose text is `text` and of which
`visible` bytes were shown, up to the first moment that ends the generation. -/
def runFrom : (generated : List TokenId) → (text : String) → (visible : Nat) → Script → List Moment
  | _, _, _, [] => []
  | generated, text, visible, (token, piece) :: rest =>
    let generated := generated ++ [token]
    let text := text ++ piece
    let step := evaluateStep params eos generated text budget visible
    match step.finish? with
    | some _ => [⟨generated, text, step⟩]
    | none => ⟨generated, text, step⟩ :: runFrom generated text step.visible rest

/-- The moments of a script, of which nothing was shown before. -/
def run (script : Script) : List Moment := runFrom params eos budget [] "" 0 script

/-- The generation ends with the `k`-th token of the script. -/
def EndsAt (script : Script) (k : Nat) : Prop :=
  Ends params eos budget (Script.ids (script.take k)) (Script.text (script.take k))

instance (script : Script) (k : Nat) : Decidable (EndsAt params eos budget script k) :=
  inferInstanceAs (Decidable (Ends ..))

/-- The moment after `k` tokens, if the generation did not end before: what has settled up to the
token before is all that was shown. -/
def momentAfter (script : Script) (k : Nat) : Moment where
  tokenIds := Script.ids (script.take k)
  text := Script.text (script.take k)
  step := evaluateStep params eos (Script.ids (script.take k)) (Script.text (script.take k)) budget
    (settled params.stop (Script.text (script.take (k - 1))).toList)

end

variable {params : SamplingParams} {eos : Option TokenId} {budget : Nat} {script : Script}
  {j k : Nat}

/-! ## A run has no memory -/

/-- **The visible length is stateless**: a token that does not end the generation makes visible
what has settled. -/
theorem step_momentAfter_of_not_endsAt (h : ¬ EndsAt params eos budget script k) :
    (momentAfter params eos budget script k).step =
      ⟨settled params.stop (Script.text (script.take k)).toList, none⟩ := by
  have hmono : settled params.stop _ ≤ settled params.stop _ :=
    settled_mono (script.text_take_mono (Nat.sub_le k 1))
  rw [momentAfter, evaluateStep_of_not_ends h, Nat.max_eq_left hmono,
    (boundary_settled ..).charFloor_eq]

/-- The run over a script stops after `k` tokens: at the first that ends the generation, or else
when there are no more. -/
structure StopsAfter (params : SamplingParams) (eos : Option TokenId) (budget : Nat)
    (script : Script) (k : Nat) : Prop where
  le : k ≤ script.length
  first : ∀ j < k, 1 ≤ j → ¬ EndsAt params eos budget script j
  last : (1 ≤ k ∧ EndsAt params eos budget script k) ∨ k = script.length

/-- A run stops at one place only. -/
theorem StopsAfter.unique (hj : StopsAfter params eos budget script j)
    (hk : StopsAfter params eos budget script k) : j = k := by
  rcases Nat.lt_trichotomy j k with hlt | heq | hlt
  · rcases hj.last with ⟨hone, hends⟩ | hall
    · exact absurd hends (hk.first j hlt hone)
    · exact absurd hk.le (by omega)
  · exact heq
  · rcases hk.last with ⟨hone, hends⟩ | hall
    · exact absurd hends (hj.first k hlt hone)
    · exact absurd hj.le (by omega)

/-- From a settled state on, the next token gives the moment of the script, and leaves a settled
state unless it ends the generation. -/
theorem runFrom_cons (front rest : Script) (head : TokenId × String) :
    runFrom params eos budget (Script.ids front) (Script.text front)
        (settled params.stop (Script.text front).toList) (head :: rest) =
      momentAfter params eos budget (front ++ head :: rest) (front.length + 1) ::
        if EndsAt params eos budget (front ++ head :: rest) (front.length + 1) then []
        else runFrom params eos budget (Script.ids (front ++ [head]))
          (Script.text (front ++ [head]))
          (settled params.stop (Script.text (front ++ [head])).toList) rest := by
  obtain ⟨token, piece⟩ := head
  have hfront : (front ++ (token, piece) :: rest).take front.length = front := List.take_left
  have hnext : (front ++ (token, piece) :: rest).take (front.length + 1) =
      front ++ [(token, piece)] := by
    rw [List.append_cons]
    exact List.take_left' (by simp)
  have hmoment : momentAfter params eos budget (front ++ (token, piece) :: rest)
      (front.length + 1) = ⟨Script.ids front ++ [token], Script.text front ++ piece,
        evaluateStep params eos (Script.ids front ++ [token]) (Script.text front ++ piece) budget
          (settled params.stop (Script.text front).toList)⟩ := by
    rw [momentAfter, Nat.add_sub_cancel, hfront, hnext, Script.ids_concat, Script.text_concat]
  rw [runFrom]
  by_cases hends : EndsAt params eos budget (front ++ (token, piece) :: rest) (front.length + 1)
  · -- the token ends the run
    have hsome : (evaluateStep params eos _ _ budget
        (settled params.stop (Script.text front).toList)).finish?.isSome :=
      isSome_finish?_iff.mpr hends
    rw [hnext, Script.ids_concat, Script.text_concat] at hsome
    obtain ⟨reason, hreason⟩ := Option.isSome_iff_exists.mp hsome
    rw [if_pos hends, hmoment]
    simp only [hreason]
  · -- the run goes on, and what is shown is settled again
    have hstep := step_momentAfter_of_not_endsAt hends
    rw [hnext, Script.text_concat, hmoment] at hstep
    rw [if_neg hends, hmoment, Script.ids_concat, Script.text_concat]
    simp only at hstep
    simp only [hstep]

variable (params eos budget) in
/-- The moments that follow a part of the script, up to the first that ends the generation. -/
theorem exists_runFrom_eq (front rest : Script) : ∃ n ≤ rest.length,
    runFrom params eos budget (Script.ids front) (Script.text front)
        (settled params.stop (Script.text front).toList) rest =
      (List.range' (front.length + 1) n).map (momentAfter params eos budget (front ++ rest)) ∧
    (∀ k < front.length + n, front.length + 1 ≤ k →
      ¬ EndsAt params eos budget (front ++ rest) k) ∧
    ((1 ≤ n ∧ EndsAt params eos budget (front ++ rest) (front.length + n)) ∨ n = rest.length) := by
  induction rest generalizing front with
  | nil => exact ⟨0, Nat.le_refl 0, rfl, fun k hlt hle => absurd hlt (by omega), .inr rfl⟩
  | cons head rest ih =>
    rw [runFrom_cons]
    by_cases hends : EndsAt params eos budget (front ++ head :: rest) (front.length + 1)
    · rw [if_pos hends]
      exact ⟨1, by simp, rfl, fun k hlt hle => absurd hlt (by omega), .inl ⟨Nat.le_refl 1, hends⟩⟩
    · obtain ⟨n, hle, heq, hfirst, hlast⟩ := ih (front ++ [head])
      rw [← List.append_cons] at heq hfirst hlast
      rw [List.length_append, List.length_singleton] at heq hfirst hlast
      rw [if_neg hends, heq]
      refine ⟨n + 1, Nat.add_le_add_right hle 1, rfl, ?_, ?_⟩
      · intro k hlt hle
        rcases Nat.eq_or_lt_of_le hle with rfl | hlt'
        · exact hends
        · exact hfirst k (by omega) hlt'
      · rcases hlast with ⟨hone, hlast⟩ | hlast
        · exact .inl ⟨by omega, by rwa [Nat.add_comm n 1, ← Nat.add_assoc]⟩
        · exact .inr (by rw [hlast, List.length_cons])

variable (params eos budget) in
/-- **A run has no memory**: its moments are those of the script, up to where it stops. -/
theorem exists_run_eq (script : Script) : ∃ k, StopsAfter params eos budget script k ∧
    run params eos budget script =
      (List.range' 1 k).map (momentAfter params eos budget script) := by
  obtain ⟨n, hle, heq, hfirst, hlast⟩ := exists_runFrom_eq params eos budget [] script
  simp only [List.nil_append, List.length_nil, Nat.zero_add] at heq hfirst hlast
  exact ⟨n, ⟨hle, hfirst, hlast⟩, by simpa [run, Script.ids] using heq⟩

/-- A run stops where its script says. -/
theorem StopsAfter.run_eq (h : StopsAfter params eos budget script k) :
    run params eos budget script =
      (List.range' 1 k).map (momentAfter params eos budget script) := by
  obtain ⟨j, hj, heq⟩ := exists_run_eq params eos budget script
  rw [heq, hj.unique h]

/-- The last moment of a run is the one after which it stops, and the others are those before. -/
theorem exists_of_run_eq_concat {earlier : List Moment} {last : Moment}
    (h : run params eos budget script = earlier ++ [last]) :
    ∃ k, StopsAfter params eos budget script (k + 1) ∧
      earlier = (List.range' 1 k).map (momentAfter params eos budget script) ∧
      last = momentAfter params eos budget script (k + 1) := by
  obtain ⟨n, hstops, heq⟩ := exists_run_eq params eos budget script
  rw [h] at heq
  cases n with
  | zero => simp at heq
  | succ k =>
    rw [List.range'_1_concat, List.map_append, List.map_singleton] at heq
    obtain ⟨hearlier, hlast⟩ := List.append_inj' heq rfl
    exact ⟨k, hstops, hearlier, by rw [List.singleton_inj.mp hlast, Nat.add_comm]⟩

/-! ## What is shown grows -/

/-- The moment that a stop text ends shows the text up to it, unless more was settled before. -/
theorem exists_step_momentAfter_of_text
    (htoken : ¬ EndsOnToken params eos (Script.ids (script.take k)))
    (htext : EndsOnText params (Script.ids (script.take k)) (Script.text (script.take k))) :
    ∃ n, IsLeast {m | StopAt params.stop (Script.text (script.take k)).toList m} n ∧
      (momentAfter params eos budget script k).step =
        ⟨max n (settled params.stop (Script.text (script.take (k - 1))).toList), some .stop⟩ := by
  obtain ⟨n, -, hn⟩ := (findsLeast_firstStop _ _).exists_eq_some htext.2.choose_spec
  have hbefore := (boundary_settled params.stop (Script.text (script.take (k - 1))).toList).mono
    (script.text_take_mono (Nat.sub_le k 1))
  refine ⟨n, hn, ?_⟩
  rw [momentAfter, evaluateStep_of_text htoken htext.1 hn, (hn.1.boundary.max hbefore).charFloor_eq]

/-- What had settled before a moment is visible in it, and what is visible ends at a boundary. -/
theorem settled_le_visible (params : SamplingParams) (eos : Option TokenId) (budget : Nat)
    (script : Script) (k : Nat) :
    settled params.stop (Script.text (script.take (k - 1))).toList ≤
        (momentAfter params eos budget script k).step.visible ∧
      Boundary (momentAfter params eos budget script k).step.visible
        (Script.text (script.take k)).toList := by
  have hpre := script.text_take_mono (Nat.sub_le k 1)
  -- all text is visible
  have hall := (settled_le params.stop _).trans (byteLength_mono hpre)
  by_cases htoken : EndsOnToken params eos (Script.ids (script.take k))
  · rw [momentAfter, evaluateStep_of_token htoken]
    exact ⟨hall, boundary_byteLength _⟩
  by_cases htext : EndsOnText params (Script.ids (script.take k)) (Script.text (script.take k))
  · obtain ⟨n, hn, hstep⟩ := exists_step_momentAfter_of_text htoken htext
    rw [hstep]
    exact ⟨Nat.le_max_right .., hn.1.boundary.max ((boundary_settled ..).mono hpre)⟩
  by_cases hends : EndsAt params eos budget script k
  · have hbudget := (hends.resolve_left htoken).resolve_left htext
    rw [momentAfter, evaluateStep_of_budget htoken htext hbudget]
    exact ⟨hall, boundary_byteLength _⟩
  · rw [step_momentAfter_of_not_endsAt hends]
    exact ⟨settled_mono hpre, boundary_settled ..⟩

/-- **What is shown grows**: a moment that does not end the run shows a part of what later ones
show. -/
theorem shown_momentAfter_isPrefix (hopen : ¬ EndsAt params eos budget script j) (hlt : j < k) :
    (momentAfter params eos budget script j).shown <+:
      (momentAfter params eos budget script k).shown := by
  have hpre : (Script.text (script.take j)).toList <+: (Script.text (script.take k)).toList :=
    script.text_take_mono hlt.le
  have hvisible : (momentAfter params eos budget script j).step.visible =
      settled params.stop (Script.text (script.take j)).toList := by
    rw [step_momentAfter_of_not_endsAt hopen]
  obtain ⟨hle, hboundary⟩ := settled_le_visible params eos budget script k
  refine prefix_of_byteLength_le ((Moment.shown_isPrefix _).trans hpre) (Moment.shown_isPrefix _) ?_
  calc byteLength (momentAfter params eos budget script j).shown
      ≤ settled params.stop (Script.text (script.take j)).toList :=
        hvisible ▸ Moment.byteLength_shown_le _
    _ ≤ settled params.stop (Script.text (script.take (k - 1))).toList :=
        settled_mono (script.text_take_mono (Nat.le_sub_one_of_lt hlt))
    _ ≤ (momentAfter params eos budget script k).step.visible := hle
    _ = byteLength (momentAfter params eos budget script k).shown :=
        hboundary.byteLength_takeBytes.symm

/-! ## Stop texts are cut where they start -/

/-- Where a run stops, nothing behind the start of a stop text had settled before: a stop text that
was there would have ended the run. -/
theorem StopsAfter.settled_le (h : StopsAfter params eos budget script k)
    (hmin : params.minTokens ≤ 1) {n : Nat}
    (hstop : StopAt params.stop (Script.text (script.take k)).toList n) :
    settled params.stop (Script.text (script.take (k - 1))).toList ≤ n := by
  rcases Nat.eq_zero_or_pos (k - 1) with hzero | hpos
  · rw [hzero, List.take_zero, Script.text_nil]
    exact (settled_nil params.stop).le.trans (Nat.zero_le n)
  · refine settled_le_of_stopAt (script.text_take_mono (Nat.sub_le k 1)) ?_ hstop
    intro hbefore
    refine h.first (k - 1) (by omega) hpos (.inr (.inl ⟨?_, hbefore⟩))
    have hle := UInt64.le_iff_toNat_le.mp hmin
    have hlen := h.le
    rw [Script.length_ids, List.length_take]
    change params.minTokens.toNat ≤ 1 at hle
    omega

/-- **Cut**: a run that a stop text ends shows the text up to the first stop text. -/
theorem StopsAfter.exists_step_eq (h : StopsAfter params eos budget script k)
    (hmin : params.minTokens ≤ 1)
    (htoken : ¬ EndsOnToken params eos (Script.ids (script.take k)))
    (htext : EndsOnText params (Script.ids (script.take k)) (Script.text (script.take k))) :
    ∃ n, IsLeast {m | StopAt params.stop (Script.text (script.take k)).toList m} n ∧
      (momentAfter params eos budget script k).step = ⟨n, some .stop⟩ := by
  obtain ⟨n, hn, hstep⟩ := exists_step_momentAfter_of_text htoken htext
  refine ⟨n, hn, ?_⟩
  rw [hstep, Nat.max_eq_left (h.settled_le hmin hn.1)]

/-- If no stop token ends a generation, what ends it for the reason `stop` is a stop text. -/
theorem endsOnText_of_finish?_eq {generated : List TokenId} {text : String} {shownBefore : Nat}
    (htoken : ¬ EndsOnToken params eos generated)
    (h : (evaluateStep params eos generated text budget shownBefore).finish? = some .stop) :
    EndsOnText params generated text := by
  by_contra htext
  rw [evaluateStep_of_not_text htoken htext] at h
  split at h <;> simp at h

/-- **Stop texts are cut exactly and nothing of them is shown.** If a stop text ends a run, the run
ends with the text up to the first stop text, and all that it showed before is a part of that. -/
theorem stop_text_cut_exactly {earlier : List Moment} {last : Moment}
    (hmin : params.minTokens ≤ 1)
    (hrun : run params eos budget script = earlier ++ [last])
    (hstop : last.step.finish? = some .stop) (htoken : ¬ EndsOnToken params eos last.tokenIds) :
    IsLeast {n | StopAt params.stop last.text.toList n} last.step.visible ∧
      (∀ m ∈ earlier, m.step.visible ≤ last.step.visible) ∧
      (∀ m ∈ earlier ++ [last], m.shown <+: last.shown) ∧
      ¬ ∃ n, StopAt params.stop last.shown n := by
  obtain ⟨k, hstops, rfl, rfl⟩ := exists_of_run_eq_concat hrun
  obtain ⟨n, hn, hstep⟩ := hstops.exists_step_eq hmin htoken (endsOnText_of_finish?_eq htoken hstop)
  have hvisible : (momentAfter params eos budget script (k + 1)).step.visible = n := by rw [hstep]
  -- no earlier moment ends the run
  have hopen : ∀ m ∈ (List.range' 1 k).map (momentAfter params eos budget script),
      ∃ j ≤ k, ¬ EndsAt params eos budget script j ∧
        m = momentAfter params eos budget script j := by
    intro m hm
    obtain ⟨j, hj, rfl⟩ := List.mem_map.mp hm
    obtain ⟨hone, hlt⟩ := List.mem_range'_1.mp hj
    exact ⟨j, by omega, hstops.first j (by omega) hone, rfl⟩
  refine ⟨hvisible ▸ hn, fun m hm => ?_, fun m hm => ?_, ?_⟩
  · obtain ⟨j, hle, hj, rfl⟩ := hopen m hm
    rw [hvisible, step_momentAfter_of_not_endsAt hj]
    exact (settled_mono (script.text_take_mono hle)).trans (hstops.settled_le hmin hn.1)
  · rcases List.mem_append.mp hm with hm | hm
    · obtain ⟨j, hle, hj, rfl⟩ := hopen m hm
      exact shown_momentAfter_isPrefix hj (Nat.lt_succ_of_le hle)
    · obtain rfl := List.mem_singleton.mp hm
      exact List.prefix_rfl
  · rw [Moment.shown, hvisible]
    exact not_stopAt_takeBytes hn

/-- A run whose third token completes the stop text `END`, of which nothing was shown. -/
theorem stop_text_cut_exactly_spanning :
    let params := { SamplingParams.default with stop := ["END"] }
    let earlier : List Moment := [⟨[1], "x E", ⟨2, none⟩⟩, ⟨[1, 2], "x EN", ⟨2, none⟩⟩]
    let last : Moment := ⟨[1, 2, 3], "x END!", ⟨2, some .stop⟩⟩
    IsLeast {n | StopAt params.stop last.text.toList n} last.step.visible ∧
      (∀ m ∈ earlier, m.step.visible ≤ last.step.visible) ∧
      (∀ m ∈ earlier ++ [last], m.shown <+: last.shown) ∧
      ¬ ∃ n, StopAt params.stop last.shown n := by
  have hrun : run { SamplingParams.default with stop := ["END"] } none 9
      [(1, "x E"), (2, "N"), (3, "D!")] =
        [⟨[1], "x E", ⟨2, none⟩⟩, ⟨[1, 2], "x EN", ⟨2, none⟩⟩] ++
          [⟨[1, 2, 3], "x END!", ⟨2, some .stop⟩⟩] := rfl
  exact stop_text_cut_exactly (by decide) hrun rfl (by decide)

/-! ## How a text is split does not matter -/

/-- A script in which no token stops anything is not ended by a token. -/
theorem not_endsOnToken_of_forall (hquiet : ∀ t ∈ script, ¬ IsStopToken params eos t.1) :
    ¬ EndsOnToken params eos (Script.ids (script.take k)) := by
  rintro ⟨-, token, hlast, hstops⟩
  obtain ⟨t, ht, rfl⟩ := List.mem_map.mp (List.mem_of_getLast? hlast)
  exact hquiet t (List.mem_of_mem_take ht) hstops

/-- If nothing else can end it before its script does, a run over a text with a stop text in it is
ended by one. -/
theorem StopsAfter.endsOnText (h : StopsAfter params eos budget script k)
    (hmin : params.minTokens ≤ 1)
    (hstop : ∃ n, StopAt params.stop (Script.text script).toList n)
    (hquiet : ∀ t ∈ script, ¬ IsStopToken params eos t.1) (hbudget : script.length ≤ budget) :
    1 ≤ k ∧ EndsOnText params (Script.ids (script.take k)) (Script.text (script.take k)) := by
  have hlong : 1 ≤ script.length := by
    rw [Nat.one_le_iff_ne_zero]
    intro hzero
    obtain ⟨n, hn⟩ := hstop
    rw [List.eq_nil_of_length_eq_zero hzero, Script.text_nil] at hn
    exact absurd hn.lt_byteLength (Nat.not_lt_zero n)
  -- at the end of the script the stop text is there
  have hall : k = script.length →
      EndsOnText params (Script.ids (script.take k)) (Script.text (script.take k)) := by
    rintro rfl
    have hle : params.minTokens.toNat ≤ 1 := UInt64.le_iff_toNat_le.mp hmin
    rw [List.take_length]
    exact ⟨by rw [Script.length_ids]; omega, hstop⟩
  rcases h.last with ⟨hone, hends | hends | hends⟩ | heq
  · exact absurd hends (not_endsOnToken_of_forall hquiet)
  · exact ⟨hone, hends⟩
  · -- the budget does not run out before the script
    rw [Script.length_ids, List.length_take] at hends
    exact ⟨hone, hall (by have := h.le; omega)⟩
  · exact ⟨by omega, hall heq⟩

/-- If only stop texts can end it and no stop text is a part of another one, a run ends with the
text up to the first stop text of the whole script. -/
theorem exists_getLast?_run (hmin : params.minTokens ≤ 1) (hstops : Unnested params.stop)
    (hstop : ∃ n, StopAt params.stop (Script.text script).toList n)
    (hquiet : ∀ t ∈ script, ¬ IsStopToken params eos t.1) (hbudget : script.length ≤ budget) :
    ∃ n last, IsLeast {m | StopAt params.stop (Script.text script).toList m} n ∧
      (run params eos budget script).getLast? = some last ∧ last.step = ⟨n, some .stop⟩ ∧
      last.shown = takeBytes n (Script.text script).toList := by
  obtain ⟨k, hk, hrun⟩ := exists_run_eq params eos budget script
  obtain ⟨hpos, htext⟩ := hk.endsOnText hmin hstop hquiet hbudget
  obtain ⟨n, hn, hstep⟩ := hk.exists_step_eq hmin (not_endsOnToken_of_forall hquiet) htext
  have hpre : (Script.text (script.take k)).toList <+: (Script.text script).toList := by
    have := script.text_take_mono hk.le
    rwa [List.take_length] at this
  refine ⟨n, momentAfter params eos budget script k, hstops.isLeast_mono hpre hn, ?_, hstep, ?_⟩
  · rw [hrun, List.getLast?_map, List.getLast?_range', if_neg (by omega), Option.map_some,
      Nat.add_sub_cancel_left]
  · rw [Moment.shown, hstep]
    exact hn.1.boundary.takeBytes_eq hpre

/-- **Incremental stopping is batch truncation.** If only stop texts can end them and no stop text
is a part of another one, two runs over the same text, however it is split into tokens, end for the
same reason and show the same text: the one up to the first stop text. -/
theorem getLast?_run_of_text_eq {script' : Script} (hmin : params.minTokens ≤ 1)
    (hstops : Unnested params.stop) (htext : Script.text script = Script.text script')
    (hstop : ∃ n, StopAt params.stop (Script.text script).toList n)
    (hquiet : ∀ t ∈ script ++ script', ¬ IsStopToken params eos t.1)
    (hbudget : script.length ≤ budget) (hbudget' : script'.length ≤ budget) :
    ∃ n last last', IsLeast {m | StopAt params.stop (Script.text script).toList m} n ∧
      (run params eos budget script).getLast? = some last ∧
      (run params eos budget script').getLast? = some last' ∧
      last.step.finish? = some .stop ∧ last'.step.finish? = some .stop ∧
      last.shown = takeBytes n (Script.text script).toList ∧
      last'.shown = takeBytes n (Script.text script).toList := by
  have hstop' : ∃ n, StopAt params.stop (Script.text script').toList n := htext ▸ hstop
  obtain ⟨n, last, hn, hrun, hstep, hshown⟩ := exists_getLast?_run hmin hstops hstop
    (fun t ht => hquiet t (List.mem_append_left _ ht)) hbudget
  obtain ⟨n', last', hn', hrun', hstep', hshown'⟩ := exists_getLast?_run hmin hstops hstop'
    (fun t ht => hquiet t (List.mem_append_right _ ht)) hbudget'
  rw [← htext] at hn' hshown'
  obtain rfl := hn.unique hn'
  exact ⟨n, last, last', hn, hrun, hrun', by rw [hstep], by rw [hstep'], hshown, hshown'⟩

/-- The stop texts `ab` and `ba` overlap in `xaba`: both runs stop at the first of the two, though
one of them is over two tokens. -/
theorem getLast?_run_of_text_eq_split :
    let params := { SamplingParams.default with stop := ["ba", "ab"] }
    let script : Script := [(1, "xaba")]
    let script' : Script := [(3, "xa"), (4, "b"), (5, "a")]
    ∃ n last last', IsLeast {m | StopAt params.stop (Script.text script).toList m} n ∧
      (run params none 4 script).getLast? = some last ∧
      (run params none 4 script').getLast? = some last' ∧
      last.step.finish? = some .stop ∧ last'.step.finish? = some .stop ∧
      last.shown = takeBytes n (Script.text script).toList ∧
      last'.shown = takeBytes n (Script.text script).toList := by
  have hunnested : Unnested ["ba", "ab"] := by decide
  have hstop : ∃ n, StopAt ["ba", "ab"] (Script.text [(1, "xaba")]).toList n := by decide
  have htext : Script.text [(1, "xaba")] = Script.text [(3, "xa"), (4, "b"), (5, "a")] := rfl
  exact getLast?_run_of_text_eq (by decide) hunnested htext hstop (by decide) (by decide)
    (by decide)

end Decoding

end CompletionService
