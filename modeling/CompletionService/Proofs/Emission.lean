import CompletionService.Proofs.PartialOffsets
import CompletionService.Proofs.Relay
import Mathlib.Data.List.ReduceOption

/-!
# What an emitter says

An emitter only remembers how long the text is that it has emitted, while the text of each event is
another one. Two layers:

* comparable texts — one of the two starts the other. Of a text that comes back to what was said
  before, nothing is said again (`append_textFrom_of_comparable`);
* streams — `Spoken` is the invariant: what was said is the longest text so far. **Step**:
  `Spoken.advance`; **run**: `exists_observeAll`.

Together: **a stream says the longest text, and nothing twice** (`stream_says_longest_text`).
-/

namespace CompletionService

open Json Text

namespace Emitter

/-! ## Events one after the other -/

/-- Observes events one after the other: what each yields, and the emitter afterwards. -/
def observeAll (e : Emitter) :
    List RequestOutput → Except ServiceError (List (Option StreamChunk) × Emitter)
  | [] => return ([], e)
  | event :: events => do
    let (chunk?, e) ← e.observe event
    let (chunks, e) ← e.observeAll events
    return (chunk? :: chunks, e)

/-- The last event is observed after all the others. -/
theorem observeAll_concat (e : Emitter) (events : List RequestOutput) (event : RequestOutput) :
    e.observeAll (events ++ [event]) = (do
      let (chunks, e) ← e.observeAll events
      let (chunk?, e) ← e.observe event
      return (chunks ++ [chunk?], e)) := by
  induction events generalizing e with
  | nil => simp [observeAll]
  | cons first events ih => simp [observeAll, ih, bind_assoc]

/-- Events that are observed can be followed by one more. -/
theorem observeAll_concat_of_ok {e mid next : Emitter} {events : List RequestOutput}
    {event : RequestOutput} {chunks : List (Option StreamChunk)} {chunk? : Option StreamChunk}
    (h : e.observeAll events = .ok (chunks, mid)) (hlast : mid.observe event = .ok (chunk?, next)) :
    e.observeAll (events ++ [event]) = .ok (chunks ++ [chunk?], next) := by
  simp only [observeAll_concat, h, bind, Except.bind, hlast]
  rfl

end Emitter

/-! ## Comparable texts -/

/-- One of the texts starts the other. -/
def Comparable (s t : String) : Prop := s.toList <+: t.toList ∨ t.toList <+: s.toList

instance (s t : String) : Decidable (Comparable s t) :=
  inferInstanceAs (Decidable (_ ∨ _))

/-- Nothing is new in a text with which starts what was said. -/
theorem textFrom_of_isPrefix {said text : String} (h : text.toList <+: said.toList) :
    Emitter.textFrom (byteLength said.toList) text = "" := by
  rw [Emitter.textFrom]
  cases hdrop : dropBytes? (byteLength said.toList) text.toList with
  | none => rfl
  | some rest =>
    -- a text that reaches so far is all that was said, and nothing stands behind it
    have hboundary : Boundary (byteLength said.toList) text.toList :=
      isSome_dropBytes?_iff.mp (by rw [hdrop, Option.isSome_some])
    have hend := dropBytes?_append text.toList []
    rw [List.append_nil, Nat.le_antisymm (byteLength_mono h) hboundary.le, hdrop] at hend
    rw [Option.some.inj hend]
    rfl

/-- **What was said and what is new in a comparable text** is the longer of the two. -/
theorem append_textFrom_of_comparable {said text : String} (h : Comparable said text) :
    (said ++ Emitter.textFrom (byteLength said.toList) text = text ∧
        said.toList <+: text.toList) ∨
      (said ++ Emitter.textFrom (byteLength said.toList) text = said ∧
        text.toList <+: said.toList) := by
  rcases h with hpre | hpre
  · exact .inl ⟨append_textFrom hpre, hpre⟩
  · rw [textFrom_of_isPrefix hpre, String.append_empty]
    exact .inr ⟨rfl, hpre⟩

/-! ## Streams -/

/-- The last token of the first completion of an event, if there is one. -/
def RequestOutput.lastToken? (event : RequestOutput) : Option TokenId :=
  event.outputs.head?.bind (·.tokenIds.getLast?)

/-- The first completion of an event has its first text and its last token. -/
theorem RequestOutput.of_firstOutput {event : RequestOutput} {output : CompletionOutput}
    (h : event.firstOutput = .ok output) :
    output.text = event.firstText ∧ output.tokenIds.getLast? = event.lastToken? := by
  unfold firstOutput at h
  split at h
  · rename_i first others houtputs
    obtain rfl := Except.ok.inj h
    rw [firstText, lastToken?, houtputs]
    exact ⟨rfl, rfl⟩
  · cases h

/-- What an event of a stream yields: a chunk with its last token, unless it is final. -/
def RequestOutput.Yields (event : RequestOutput) (chunk? : Option StreamChunk) : Prop :=
  if event.finished then chunk? = none else chunk?.map (·.token) = some event.lastToken?

/-- The text that is said by the chunks that events yield. -/
def spokenBy (chunks : List (Option StreamChunk)) : String :=
  String.join (chunks.reduceOption.map (·.text))

@[simp] theorem spokenBy_concat_none (chunks : List (Option StreamChunk)) :
    spokenBy (chunks ++ [none]) = spokenBy chunks := by
  rw [spokenBy, List.reduceOption_append, List.reduceOption_cons_of_none, List.reduceOption_nil,
    List.append_nil, spokenBy]

@[simp] theorem spokenBy_concat_some (chunks : List (Option StreamChunk)) (chunk : StreamChunk) :
    spokenBy (chunks ++ [some chunk]) = spokenBy chunks ++ chunk.text := by
  simp [spokenBy, List.reduceOption_append, List.reduceOption_cons_of_some]

/-- What a stream has said after some events: the longest of their texts. -/
structure Emitter.Spoken (e : Emitter) (events : List RequestOutput) (said : String) : Prop where
  streams : e.stream = true
  emitted : e.emitted = byteLength said.toList
  longest : ∀ event ∈ events, event.firstText.toList <+: said.toList
  source : said = "" ∨ ∃ event ∈ events, said = event.firstText

namespace Emitter.Spoken

variable {e : Emitter} {events : List RequestOutput} {said : String} {event : RequestOutput}
  {output : CompletionOutput}

/-- Before any event nothing was said. -/
theorem start : Spoken { stream := true } [] "" :=
  ⟨rfl, rfl, nofun, .inl rfl⟩

/-- The event that is kept does not matter. -/
theorem keep (h : e.Spoken events said) (last : Option RequestOutput) :
    Spoken { e with last } events said :=
  ⟨h.streams, h.emitted, h.longest, h.source⟩

/-- What was said is comparable with a text that is comparable with those of the events. -/
theorem comparable (h : e.Spoken events said)
    (hcomparable : ∀ other ∈ events, Comparable other.firstText event.firstText) :
    Comparable said event.firstText := by
  rcases h.source with rfl | ⟨other, hmem, rfl⟩
  · exact .inl List.nil_prefix
  · exact hcomparable other hmem

/-- **Step**: a chunk of an event completes what was said to the longest text so far. -/
theorem advance (h : e.Spoken events said) (hfirst : event.firstOutput = .ok output)
    (hcomparable : ∀ other ∈ events, Comparable other.firstText event.firstText) :
    (e.advance output).2.Spoken (events ++ [event]) (said ++ (e.advance output).1.text) := by
  obtain ⟨htext, -⟩ := RequestOutput.of_firstOutput hfirst
  rw [Emitter.advance, h.emitted, htext]
  rcases append_textFrom_of_comparable (h.comparable hcomparable) with ⟨hsaid, hpre⟩ | ⟨hsaid, hpre⟩
  · rw [hsaid]
    refine ⟨h.streams, Nat.max_eq_right (byteLength_mono hpre), ?_, .inr ⟨event, by simp, rfl⟩⟩
    intro other hmem
    rcases List.mem_append.mp hmem with hmem | hmem
    · exact (h.longest other hmem).trans hpre
    · obtain rfl := List.mem_singleton.mp hmem
      exact List.prefix_rfl
  · rw [hsaid]
    refine ⟨h.streams, Nat.max_eq_left (byteLength_mono hpre), ?_, ?_⟩
    · intro other hmem
      rcases List.mem_append.mp hmem with hmem | hmem
      · exact h.longest other hmem
      · rwa [List.mem_singleton.mp hmem]
    · rcases h.source with hempty | ⟨other, hmem, heq⟩
      · exact .inl hempty
      · exact .inr ⟨other, List.mem_append_left _ hmem, heq⟩

/-- What was said after some events is the text of one of them, and all others start it. -/
theorem exists_longest (h : e.Spoken events said) (hne : events ≠ []) :
    ∃ longest ∈ events, (∀ event ∈ events, event.GrowsTo longest) ∧ said = longest.firstText := by
  rcases h.source with rfl | ⟨longest, hmem, rfl⟩
  · -- nothing was said, so all texts are empty
    have hempty : ∀ event ∈ events, event.firstText = "" := fun event hmem =>
      String.toList_eq_nil_iff.mp (List.prefix_nil.mp (h.longest event hmem))
    obtain ⟨event, others, rfl⟩ := List.exists_cons_of_ne_nil hne
    refine ⟨event, List.mem_cons_self, fun other hmem => ?_, (hempty event List.mem_cons_self).symm⟩
    rw [RequestOutput.GrowsTo, hempty other hmem]
    exact List.nil_prefix
  · exact ⟨longest, hmem, h.longest, rfl⟩

end Emitter.Spoken

/-- **Run**: unfinished events yield one chunk each, and the chunks say the longest text. -/
theorem exists_observeAll {events : List RequestOutput}
    (houtputs : ∀ event ∈ events, event.outputs ≠ [])
    (hopen : ∀ event ∈ events, event.finished = false)
    (hcomparable : events.Pairwise fun event later =>
      Comparable event.firstText later.firstText) :
    ∃ (chunks : List (Option StreamChunk)) (e : Emitter),
      Emitter.observeAll { stream := true } events = .ok (chunks, e) ∧
      List.Forall₂ RequestOutput.Yields events chunks ∧ e.Spoken events (spokenBy chunks) ∧
      e.last = events.getLast? := by
  induction events using List.reverseRecOn with
  | nil => exact ⟨[], { stream := true }, rfl, .nil, .start, rfl⟩
  | append_singleton events event ih =>
    simp only [List.forall_mem_append, List.forall_mem_singleton] at houtputs hopen
    obtain ⟨hearlier, -, hlater⟩ := List.pairwise_append.mp hcomparable
    obtain ⟨chunks, e, hrun, hyields, hspoken, -⟩ := ih houtputs.1 hopen.1 hearlier
    obtain ⟨output, hfirst, -⟩ := RequestOutput.exists_firstOutput houtputs.2
    have hstep := hspoken.advance hfirst fun other hmem =>
      hlater other hmem event (List.mem_singleton_self event)
    have hone : event.Yields (some (e.advance output).1) := by
      rw [RequestOutput.Yields, hopen.2, ← (RequestOutput.of_firstOutput hfirst).2]
      rfl
    refine ⟨chunks ++ [some (e.advance output).1], { (e.advance output).2 with last := some event },
      ?_, List.rel_append hyields (.cons hone .nil), ?_, ?_⟩
    · exact Emitter.observeAll_concat_of_ok hrun
        (Emitter.observe_open hspoken.streams hopen.2 hfirst)
    · rw [spokenBy_concat_some]
      exact hstep.keep _
    · rw [List.getLast?_concat]

/-- A last event that is finished yields nothing, but is kept like the others: what was said is the
longest text of all events that yielded a chunk. -/
theorem exists_observeAll_concat {opens : List RequestOutput} {last : RequestOutput}
    (houtputs : ∀ event ∈ opens ++ [last], event.outputs ≠ [])
    (hopen : ∀ event ∈ opens, event.finished = false)
    (hcomparable : (opens ++ [last]).Pairwise fun event later =>
      Comparable event.firstText later.firstText) :
    ∃ (chunks : List (Option StreamChunk)) (e : Emitter) (heard : List RequestOutput),
      Emitter.observeAll { stream := true } (opens ++ [last]) = .ok (chunks, e) ∧
      List.Forall₂ RequestOutput.Yields (opens ++ [last]) chunks ∧
      e.Spoken heard (spokenBy chunks) ∧ e.last = some last ∧
      ∀ event, event ∈ heard ++ [last] ↔ event ∈ opens ++ [last] := by
  cases hfinal : last.finished with
  | false =>
    obtain ⟨chunks, e, hrun, hyields, hspoken, hlast⟩ := exists_observeAll houtputs
      (List.forall_mem_append.mpr ⟨hopen, List.forall_mem_singleton.mpr hfinal⟩) hcomparable
    rw [List.getLast?_concat] at hlast
    exact ⟨chunks, e, opens ++ [last], hrun, hyields, hspoken, hlast, by simp⟩
  | true =>
    obtain ⟨chunks, e, hrun, hyields, hspoken, -⟩ := exists_observeAll
      (fun event hmem => houtputs event (List.mem_append_left _ hmem)) hopen
      (List.pairwise_append.mp hcomparable).1
    have hnone : last.Yields none := by rw [RequestOutput.Yields, if_pos hfinal]
    refine ⟨chunks ++ [none], { e with last := some last }, opens,
      Emitter.observeAll_concat_of_ok hrun (Emitter.observe_final hfinal),
      List.rel_append hyields (.cons hnone .nil), ?_, rfl, fun event => Iff.rfl⟩
    rw [spokenBy_concat_none]
    exact hspoken.keep _

/-- **A stream says the longest text, and nothing twice.** Let the texts of some events be
comparable with each other, though they may shrink and grow again, and let all events but the last
one be unfinished. Then each unfinished event yields a chunk with its last token, and the chunks add
up, with the chunk that is read in the body of the rest, to the text that all the others start. -/
theorem stream_says_longest_text {events : List RequestOutput} (hne : events ≠ [])
    (houtputs : ∀ event ∈ events, event.outputs ≠ [])
    (hopen : ∀ event ∈ events.dropLast, event.finished = false)
    (hcomparable : events.Pairwise fun event later =>
      Comparable event.firstText later.firstText) (requestId : String) (now : Int64) :
    ∃ (chunks : List (Option StreamChunk)) (e : Emitter) (body : String) (rest : StreamChunk)
        (longest : RequestOutput),
      Emitter.observeAll { stream := true } events = .ok (chunks, e) ∧
      e.finish requestId now = .ok body ∧
      readAs StreamChunk.shape StreamChunk.ofJson body = .ok rest ∧
      List.Forall₂ RequestOutput.Yields events chunks ∧
      longest ∈ events ∧ (∀ event ∈ events, event.GrowsTo longest) ∧
      spokenBy chunks ++ rest.text = longest.firstText := by
  obtain ⟨opens, last, rfl⟩ := (List.eq_nil_or_concat' events).resolve_left hne
  rw [List.dropLast_concat] at hopen
  have hmem := List.mem_singleton_self last
  obtain ⟨chunks, e, heard, hrun, hyields, hspoken, hlast, hheard⟩ :=
    exists_observeAll_concat houtputs hopen hcomparable
  obtain ⟨output, hfirst, -⟩ :=
    RequestOutput.exists_firstOutput (houtputs last (List.mem_append_right _ hmem))
  -- all texts that were said are comparable with the last one, which may be one of them
  have hlater : ∀ other ∈ heard, Comparable other.firstText last.firstText := by
    intro other hother
    have hevent := (hheard other).mp (List.mem_append_left _ hother)
    rcases List.mem_append.mp hevent with hearlier | hsame
    · exact (List.pairwise_append.mp hcomparable).2.2 other hearlier last hmem
    · rw [List.mem_singleton.mp hsame]
      exact .inl List.prefix_rfl
  obtain ⟨longest, hlongest, hgrows, hsaid⟩ :=
    (hspoken.advance hfirst hlater).exists_longest (by simp)
  exact ⟨chunks, e, _, (e.advance output).1, longest, hrun,
    Emitter.finish_stream hspoken.streams hlast hfirst requestId now,
    (e.advance output).1.readAs_text, hyields,
    (hheard longest).mp hlongest, fun event hevent => hgrows event ((hheard event).mpr hevent),
    hsaid⟩

/-- A text that is taken back, repeated, and continued by an event that is finished when the text is
taken back once more. -/
theorem stream_says_longest_text_shrinking :
    let event (text : String) (tokenIds : List TokenId) (finished : Bool) : RequestOutput :=
      { requestId := "r", prompt := "p", outputs := [{ text, tokenIds }], finished }
    let events := [event "é" [3] false, event "" [] false, event "é" [3, 4] false,
      event "é!" [3, 4, 5] false, event "é" [3] true]
    ∃ (chunks : List (Option StreamChunk)) (e : Emitter) (body : String) (rest : StreamChunk),
      Emitter.observeAll { stream := true } events = .ok (chunks, e) ∧
      e.finish "r" 0 = .ok body ∧ readAs StreamChunk.shape StreamChunk.ofJson body = .ok rest ∧
      List.Forall₂ RequestOutput.Yields events chunks ∧ spokenBy chunks ++ rest.text = "é!" := by
  intro event events
  obtain ⟨chunks, e, body, rest, longest, hrun, hfinish, hread, hyields, hmem, hgrows, hsaid⟩ :=
    stream_says_longest_text (show events ≠ [] by decide) (by decide) (by decide) (by decide) "r" 0
  have hone : ∀ longest ∈ events,
      (∀ event ∈ events, event.firstText.toList <+: longest.firstText.toList) →
        longest.firstText = "é!" := by decide
  exact ⟨chunks, e, body, rest, hrun, hfinish, hread, hyields,
    hsaid.trans (hone longest hmem hgrows)⟩

end CompletionService
