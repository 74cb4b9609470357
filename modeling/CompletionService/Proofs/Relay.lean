import CompletionService.Handler.Run
import CompletionService.Proofs.Bodies
import CompletionService.Proofs.Offset
import Mathlib.Data.List.Chain

/-!
# Relaying a generation

How the items of a generation become responses, in a stream and as a whole. Four layers:

* events — what an emitter does with one event (`observe_open`, `observe_final`, `observe_whole`),
  and what it makes of the last one (`finish_stream`, `finish_whole`);
* items — what the relay of one item leaves to do (`relay_cons_of_receive`), of which an item
  without a chunk and a chunk that is taken are cases;
* two emitters — `Related` holds of an emitter that streams and one that does not after the same
  events: what was streamed starts the last text. Every event keeps it, and in the end the stream
  adds up to the whole;
* relays — up to the first item that decides it, a generation is a list of unfinished events
  (`exists_open_split`), which a stream answers with one chunk each (`exists_relay_open`). From
  there both fail alike, or say the same text (`relay_finished`, `relay_agrees`).

That a text is streamed (`Streams`) or returned as a whole (`Returns`) is said of what a client reads
in the bodies that it gets.
-/

namespace CompletionService

open Json Text

/-! ## Sinks that take everything -/

/-- The sink takes every response, whatever it took before. -/
def Sink.NeverRefuses (sink : Sink) : Prop := ∀ taken response, sink taken response = .ok ()

/-- The response that tells the first request of a batch of a chunk. -/
def StreamChunk.response (chunk : StreamChunk) (requestId : String) : Intermediate :=
  { requestId, body := chunk.toJson.text, message := "Result", status := 200 }

/-- A chunk that is sent into such a sink is taken, for the first request. -/
theorem sendChunk_some {ctx : Context} (hsink : ctx.sink.NeverRefuses) {requestId : String}
    {others : List String} (hids : ctx.requestIds = requestId :: others)
    (sent : List Intermediate) (chunk : StreamChunk) :
    sendChunk ctx sent (some chunk) =
      { taken := sent ++ [chunk.response requestId], result := .ok () } := by
  simp only [sendChunk, Context.send, Context.responses, hids, List.zipWith_cons_cons,
    List.zipWith_nil_right, Sink.deliver, hsink _ _]
  rfl

namespace Emitter

/-! ## One event -/

section

variable {e next : Emitter} {event : RequestOutput} {output : CompletionOutput}
  {chunk? : Option StreamChunk}

/-- For a whole, an event is kept and nothing else. -/
theorem observe_whole (h : e.stream = false) (event : RequestOutput) :
    e.observe event = .ok (none, { e with last := some event }) := by
  rw [observe, h]
  rfl

/-- A final event is kept and nothing else. -/
theorem observe_final (h : event.finished = true) :
    e.observe event = .ok (none, { e with last := some event }) := by
  rw [observe, h, Bool.not_true, Bool.and_false]
  rfl

/-- In a stream an event that is not final yields a chunk. -/
theorem observe_open (hstream : e.stream = true) (hopen : event.finished = false)
    (hfirst : event.firstOutput = .ok output) :
    e.observe event =
      .ok (some (e.advance output).1, { (e.advance output).2 with last := some event }) := by
  rw [observe, hstream, hopen, hfirst]
  rfl

/-- An event that is observed is received, and is the last one if it is final. -/
theorem receive_of_observe (h : e.observe event = .ok (chunk?, next)) :
    e.receive (.ok event) = .ok (chunk?, next, event.finished) := by
  rw [receive, h]
  rfl

/-- The rest of a stream is a chunk of its last event. -/
theorem finish_stream (hstream : e.stream = true) (hlast : e.last = some event)
    (hfirst : event.firstOutput = .ok output) (requestId : String) (now : Int64) :
    e.finish requestId now = .ok (e.advance output).1.toJson.text := by
  rw [finish, hlast]
  simp only [hfirst, hstream]
  rfl

/-- A whole is the envelope of its last event. -/
theorem finish_whole (hwhole : e.stream = false) (hlast : e.last = some event)
    (hfirst : event.firstOutput = .ok output) (requestId : String) (now : Int64) :
    e.finish requestId now = .ok (Completion.ofOutput requestId now output).toJson.text := by
  rw [finish, hlast]
  simp only [hfirst, hwhole]
  rfl

/-- A failure is not observed. -/
@[simp] theorem receive_failure (e : Emitter) (failure : ServiceError) :
    e.receive (.error failure) = .error failure := rfl

end

end Emitter

/-! ## Relaying one item -/

/-- A relay that has taken so many items before. -/
def Relay.after (count : Nat) (r : Relay) : Relay := { r with pulled := r.pulled + count }

@[simp] theorem Relay.after_sent (count : Nat) (r : Relay) : (r.after count).sent = r.sent := rfl

theorem Relay.after_after (m n : Nat) (r : Relay) : (r.after m).after n = r.after (m + n) := by
  simp only [after, Nat.add_assoc]

/-- What is left of a relay after an item that did not fail. -/
def relayAfter (ctx : Context) (sent : List Intermediate) (last : Bool) (emitter : Emitter)
    (rest : List Item) : Relay :=
  if last then { pulled := 0, sent, result := .ok emitter } else relay ctx emitter sent rest

@[simp] theorem relayAfter_true (ctx : Context) (sent : List Intermediate) (emitter : Emitter)
    (rest : List Item) :
    relayAfter ctx sent true emitter rest = { pulled := 0, sent, result := .ok emitter } := rfl

@[simp] theorem relayAfter_false (ctx : Context) (sent : List Intermediate) (emitter : Emitter)
    (rest : List Item) : relayAfter ctx sent false emitter rest = relay ctx emitter sent rest := rfl

/-- What is left of a relay that is about to send the chunk of an item, if any. -/
def relayChunk (ctx : Context) (sent : List Intermediate) (chunk? : Option StreamChunk)
    (last : Bool) (emitter : Emitter) (rest : List Item) : Relay :=
  let delivery := sendChunk ctx sent chunk?
  match delivery.result with
  | .error e =>
    { pulled := 0, sent := delivery.taken, refused := delivery.refused, result := .error e }
  | .ok _ => relayAfter ctx delivery.taken last emitter rest

section

variable {ctx : Context} {e next : Emitter} {sent : List Intermediate} {item : Item}
  {chunk? : Option StreamChunk} {last : Bool}

/-- An item that fails ends a relay. -/
theorem relay_cons_of_error {failure : ServiceError} (h : e.receive item = .error failure)
    (rest : List Item) : relay ctx e sent (item :: rest) =
      { pulled := 1, sent, result := .error failure } := by
  rw [relay, h]

/-- **Step**: a relay takes an item, and then has its chunk to send. -/
theorem relay_cons_of_receive (h : e.receive item = .ok (chunk?, next, last))
    (rest : List Item) : relay ctx e sent (item :: rest) =
      (relayChunk ctx sent chunk? last next rest).after 1 := by
  rw [relay, h]
  simp only [relayChunk]
  cases (sendChunk ctx sent chunk?).result with
  | error failure => rfl
  | ok _ => cases last <;> rfl

/-- If there is no chunk, whatever the sink does, a relay goes on at once. -/
theorem relay_cons_of_none (h : e.receive item = .ok (none, next, last)) (rest : List Item) :
    relay ctx e sent (item :: rest) = (relayAfter ctx sent last next rest).after 1 :=
  relay_cons_of_receive h rest

/-- If the sink takes the chunk, or there is none, a relay goes on with what was sent so far. -/
theorem relay_cons_of_taken {requestId : String} (h : e.receive item = .ok (chunk?, next, last))
    (htaken : ∀ chunk ∈ chunk?, sendChunk ctx sent (some chunk) =
      { taken := sent ++ [chunk.response requestId], result := .ok () }) (rest : List Item) :
    relay ctx e sent (item :: rest) =
      (relayAfter ctx (sent ++ chunk?.toList.map (·.response requestId)) last next rest).after
        1 := by
  rw [relay_cons_of_receive h]
  cases chunk? with
  | none =>
    rw [Option.toList_none, List.map_nil, List.append_nil]
    rfl
  | some chunk =>
    simp only [relayChunk, htaken chunk rfl]
    rfl

/-- A sink that takes everything takes the chunk. -/
theorem relay_cons_of_neverRefuses (hsink : ctx.sink.NeverRefuses) {requestId : String}
    {others : List String} (hids : ctx.requestIds = requestId :: others)
    (h : e.receive item = .ok (chunk?, next, last)) (rest : List Item) :
    relay ctx e sent (item :: rest) =
      (relayAfter ctx (sent ++ chunk?.toList.map (·.response requestId)) last next rest).after 1 :=
  relay_cons_of_taken h (fun chunk _ => sendChunk_some hsink hids sent chunk) rest

end

/-! ## What is said -/

/-- A text is streamed: the bodies that are sent, and the one that is the result, are read as chunks
whose texts add up to it. -/
def Streams (sent : List Intermediate) (result : Except ServiceError (List String))
    (text : String) : Prop :=
  ∃ (chunks : List StreamChunk) (last : StreamChunk) (body : String),
    (sent.map (·.body)).map (readAs StreamChunk.shape StreamChunk.ofJson) = chunks.map .ok ∧
    result = .ok [body] ∧ readAs StreamChunk.shape StreamChunk.ofJson body = .ok last ∧
    String.join (chunks.map (·.text)) ++ last.text = text

/-- A text is returned as a whole: the body that is the result is read as an envelope whose first
choice has it. -/
def Returns (result : Except ServiceError (List String)) (text : String) : Prop :=
  ∃ (envelope : Completion) (body : String), result = .ok [body] ∧
    readAs Completion.shape Completion.ofJson body = .ok envelope ∧
    envelope.choices.head?.map (·.text) = some text

/-! ## Two emitters -/

/-- The text of the first completion of an event. -/
def RequestOutput.firstText (event : RequestOutput) : String :=
  (event.outputs.head?.map (·.text)).getD ""

/-- An event that has completions has a first one, with its text. -/
theorem RequestOutput.exists_firstOutput {event : RequestOutput} (h : event.outputs ≠ []) :
    ∃ output, event.firstOutput = .ok output ∧ output.text = event.firstText := by
  obtain ⟨output, others, hcons⟩ := List.exists_cons_of_ne_nil h
  refine ⟨output, ?_, ?_⟩
  · rw [firstOutput, hcons]
  · rw [firstText, hcons]
    rfl

/-- What was said and what is new in a text that continues it is the text. -/
theorem append_textFrom {spoken text : String} (h : spoken.toList <+: text.toList) :
    spoken ++ Emitter.textFrom (byteLength spoken.toList) text = text := by
  obtain ⟨rest, hrest⟩ := h
  rw [Emitter.textFrom, ← hrest, dropBytes?_append, Option.getD_some, ← String.toList_inj,
    String.toList_append, String.toList_ofList, hrest]

/-- After the same events, of an emitter that streams and one that does not: `spoken` is the text
that was streamed, with which the last text starts. -/
structure Related (e e' : Emitter) (spoken : String) : Prop where
  streams : e.stream = true
  whole : e'.stream = false
  last : e.last = e'.last
  emitted : e.emitted = byteLength spoken.toList
  heard : ∀ event, e.last = some event →
    event.outputs ≠ [] ∧ spoken.toList <+: event.firstText.toList

namespace Related

variable {e e' : Emitter} {spoken : String} {event : RequestOutput}

/-- Before any event nothing was streamed. -/
theorem start : Related { stream := true } { stream := false } "" :=
  ⟨rfl, rfl, rfl, rfl, fun _ h => nomatch h⟩

/-- **Step**: an unfinished event streams what is new in its text. -/
theorem receive_open (h : Related e e' spoken) (houtputs : event.outputs ≠ [])
    (hpre : spoken.toList <+: event.firstText.toList) (hopen : event.finished = false) :
    ∃ (chunk : StreamChunk) (next next' : Emitter),
      e.receive (.ok event) = .ok (some chunk, next, false) ∧
      e'.receive (.ok event) = .ok (none, next', false) ∧
      spoken ++ chunk.text = event.firstText ∧ Related next next' event.firstText := by
  obtain ⟨output, hfirst, htext⟩ := RequestOutput.exists_firstOutput houtputs
  refine ⟨(e.advance output).1, { (e.advance output).2 with last := some event },
    { e' with last := some event }, ?_, ?_, ?_, ?_⟩
  · rw [Emitter.receive_of_observe (Emitter.observe_open h.streams hopen hfirst), hopen]
  · rw [Emitter.receive_of_observe (Emitter.observe_whole h.whole event), hopen]
  · rw [Emitter.advance, h.emitted, htext]
    exact append_textFrom hpre
  · refine ⟨h.streams, h.whole, rfl, ?_, ?_⟩
    · rw [Emitter.advance, h.emitted, htext]
      exact Nat.max_eq_right (byteLength_mono hpre)
    · rintro _ ⟨⟩
      exact ⟨houtputs, List.prefix_rfl⟩

/-- **Step**: a finished event streams nothing yet. -/
theorem receive_final (h : Related e e' spoken) (houtputs : event.outputs ≠ [])
    (hpre : spoken.toList <+: event.firstText.toList) (hfinal : event.finished = true) :
    ∃ next next', e.receive (.ok event) = .ok (none, next, true) ∧
      e'.receive (.ok event) = .ok (none, next', true) ∧ Related next next' spoken ∧
      next.last = some event := by
  refine ⟨{ e with last := some event }, { e' with last := some event }, ?_, ?_, ?_, rfl⟩
  · rw [Emitter.receive_of_observe (Emitter.observe_final hfinal), hfinal]
  · rw [Emitter.receive_of_observe (Emitter.observe_final hfinal), hfinal]
  · refine ⟨h.streams, h.whole, rfl, h.emitted, ?_⟩
    rintro _ ⟨⟩
    exact ⟨houtputs, hpre⟩

/-- Without any event both have failed. -/
theorem finalBodies_none (h : Related e e' spoken) (hlast : e.last = none) (requestId : String)
    (now now' : Int64) : ∃ failure, finalBodies e requestId now = .error failure ∧
      finalBodies e' requestId now' = .error failure := by
  have hlast' : e'.last = none := by rw [← h.last, hlast]
  simp only [finalBodies, Emitter.finish, hlast, hlast', bind, Except.bind]
  exact ⟨_, rfl, rfl⟩

/-- **The stream adds up to the whole**: the last chunk says what is left of the last text. -/
theorem finalBodies_some (h : Related e e' spoken) (hlast : e.last = some event)
    {chunks : List StreamChunk} (hspoken : spoken = "" ++ String.join (chunks.map (·.text)))
    (requestId : String) (now now' : Int64) :
    Streams (chunks.map (·.response requestId)) (finalBodies e requestId now) event.firstText ∧
      Returns (finalBodies e' requestId now') event.firstText := by
  have hlast' : e'.last = some event := by rw [← h.last, hlast]
  obtain ⟨houtputs, hpre⟩ := h.heard event hlast
  obtain ⟨output, hfirst, htext⟩ := RequestOutput.exists_firstOutput houtputs
  refine ⟨⟨chunks, (e.advance output).1, (e.advance output).1.toJson.text, ?_, ?_,
    StreamChunk.readAs_text _, ?_⟩, Completion.ofOutput requestId now' output,
    (Completion.ofOutput requestId now' output).toJson.text, ?_, ?_, ?_⟩
  · rw [List.map_map, List.map_map]
    exact List.map_congr_left fun chunk _ => chunk.readAs_text
  · rw [finalBodies, Emitter.finish_stream h.streams hlast hfirst]
    rfl
  · rw [String.empty_append] at hspoken
    rw [← hspoken, Emitter.advance, h.emitted, htext]
    exact append_textFrom hpre
  · rw [finalBodies, Emitter.finish_whole h.whole hlast' hfirst]
    rfl
  · exact Completion.readAs_text (Completion.logprobs_ofOutput requestId now' output)
  · rw [← htext]
    rfl

end Related

/-! ## Relays -/

/-- The events of a generation. -/
def eventsOf (items : List Item) : List RequestOutput := items.filterMap Except.toOption

/-- The text of an event starts that of another one. -/
def RequestOutput.GrowsTo (event next : RequestOutput) : Prop :=
  event.firstText.toList <+: next.firstText.toList

instance : Trans RequestOutput.GrowsTo RequestOutput.GrowsTo RequestOutput.GrowsTo :=
  ⟨List.IsPrefix.trans⟩

/-- Every event has a text, and it continues the text of the event before. -/
structure Cumulative (events : List RequestOutput) : Prop where
  outputs : ∀ event ∈ events, event.outputs ≠ []
  grows : events.IsChain RequestOutput.GrowsTo

/-- The events before an item. -/
theorem eventsOf_map_ok_append (events : List RequestOutput) (items : List Item) :
    eventsOf (events.map .ok ++ items) = events ++ eventsOf items := by
  rw [eventsOf, List.filterMap_append, List.filterMap_map]
  congr 1
  exact List.filterMap_some

/-- The first events of a cumulative generation. -/
theorem Cumulative.of_append {events others : List RequestOutput}
    (h : Cumulative (events ++ others)) : Cumulative events where
  outputs event hmem := h.outputs event (List.mem_append_left others hmem)
  grows := h.grows.left_of_append

/-- The first event has a text, and all the others continue it. -/
theorem Cumulative.of_cons {event : RequestOutput} {events : List RequestOutput}
    (h : Cumulative (event :: events)) :
    event.outputs ≠ [] ∧ (∀ next ∈ events, event.GrowsTo next) ∧ Cumulative events := by
  obtain ⟨houtputs, hothers⟩ := List.forall_mem_cons.mp h.outputs
  exact ⟨houtputs, (List.pairwise_cons.mp h.grows.pairwise).1, hothers, h.grows.tail⟩

/-- Up to the first item that decides it, a generation is a list of unfinished events. -/
theorem exists_open_split (items : List Item) : ∃ (opens : List RequestOutput) (rest : List Item),
    items = opens.map .ok ++ rest ∧ (∀ event ∈ opens, event.finished = false) ∧
    (rest = [] ∨ (∃ failure later, rest = .error failure :: later) ∨
      ∃ final later, rest = .ok final :: later ∧ final.finished = true) := by
  induction items with
  | nil => exact ⟨[], [], rfl, by simp, .inl rfl⟩
  | cons item items ih =>
    cases item with
    | error failure => exact ⟨[], _, rfl, by simp, .inr (.inl ⟨failure, items, rfl⟩)⟩
    | ok event =>
      cases hfinished : event.finished with
      | true => exact ⟨[], _, rfl, by simp, .inr (.inr ⟨event, items, rfl, hfinished⟩)⟩
      | false =>
        obtain ⟨opens, rest, rfl, hopens, hrest⟩ := ih
        exact ⟨event :: opens, rest, rfl, List.forall_mem_cons.mpr ⟨hfinished, hopens⟩, hrest⟩

/-- **Run**: a stream answers each of the unfinished events with one chunk, and a whole with none.
What was streamed after them is the text of the last one. -/
theorem exists_relay_open {ctx : Context} (ctx' : Context) (hsink : ctx.sink.NeverRefuses)
    {requestId : String} {others : List String} (hids : ctx.requestIds = requestId :: others)
    {e e' : Emitter} {spoken : String} (h : Related e e' spoken) {opens : List RequestOutput}
    (hopen : ∀ event ∈ opens, event.finished = false) (hcumulative : Cumulative opens)
    (hpre : ∀ event ∈ opens, spoken.toList <+: event.firstText.toList)
    (sent sent' : List Intermediate) :
    ∃ (chunks : List StreamChunk) (next next' : Emitter) (said : String),
      chunks.length = opens.length ∧ said = spoken ++ String.join (chunks.map (·.text)) ∧
      (said = spoken ∨ ∃ event ∈ opens, said = event.firstText) ∧ Related next next' said ∧
      ∀ rest, relay ctx e sent (opens.map .ok ++ rest) =
          (relay ctx next (sent ++ chunks.map (·.response requestId)) rest).after opens.length ∧
        relay ctx' e' sent' (opens.map .ok ++ rest) =
          (relay ctx' next' sent' rest).after opens.length := by
  induction opens generalizing e e' spoken sent with
  | nil => exact ⟨[], e, e', spoken, rfl, by simp, .inl rfl, h, fun rest => by simp [Relay.after]⟩
  | cons event opens ih =>
    rw [List.forall_mem_cons] at hopen hpre
    obtain ⟨houtputs, hgrows, hcumulative⟩ := hcumulative.of_cons
    obtain ⟨chunk, next, next', hreceive, hreceive', hsaid, hnext⟩ :=
      h.receive_open houtputs hpre.1 hopen.1
    obtain ⟨chunks, last, last', said, hlen, htext, hend, hrelated, hrelay⟩ :=
      ih hnext hopen.2 hcumulative hgrows (sent ++ [chunk.response requestId])
    refine ⟨chunk :: chunks, last, last', said, ?_, ?_, .inr ?_, hrelated, fun rest => ⟨?_, ?_⟩⟩
    · rw [List.length_cons, List.length_cons, hlen]
    · rw [htext, ← hsaid, List.map_cons, String.join_cons, String.append_assoc]
    · rcases hend with hend | ⟨later, hmem, hend⟩
      · exact ⟨event, List.mem_cons_self, hend⟩
      · exact ⟨later, List.mem_cons_of_mem event hmem, hend⟩
    · rw [List.map_cons, List.cons_append, relay_cons_of_neverRefuses hsink hids hreceive,
        relayAfter_false, Option.toList_some, List.map_singleton, (hrelay rest).1,
        Relay.after_after, List.append_assoc]
      rfl
    · rw [List.map_cons, List.cons_append, relay_cons_of_none hreceive', relayAfter_false,
        (hrelay rest).2, Relay.after_after]
      rfl

/-! ## The ends of a relay -/

/-- The final responses after a relay. -/
def Relay.bodies (r : Relay) (requestId : String) (now : Int64) :
    Except ServiceError (List String) := do
  finalBodies (← r.result) requestId now

section

variable {ctx : Context} (ctx' : Context) (hsink : ctx.sink.NeverRefuses) {requestId : String}
  {others : List String} (hids : ctx.requestIds = requestId :: others) (now now' : Int64)
include hsink hids

/-- **Finished**: a generation that is finished by an event is streamed in one chunk for each event,
and says the text of that event. -/
theorem relay_finished {opens : List RequestOutput} {final : RequestOutput}
    (hopen : ∀ event ∈ opens, event.finished = false) (hfinal : final.finished = true)
    (later : List Item) (hcumulative : Cumulative (opens ++ [final])) :
    let streamed := relay ctx { stream := true } [] (opens.map .ok ++ .ok final :: later)
    let whole := relay ctx' { stream := false } [] (opens.map .ok ++ .ok final :: later)
    streamed.pulled = opens.length + 1 ∧ whole.pulled = opens.length + 1 ∧
      streamed.sent.length = opens.length ∧ whole.sent = [] ∧
      Streams streamed.sent (streamed.bodies requestId now) final.firstText ∧
      Returns (whole.bodies requestId now') final.firstText := by
  intro streamed whole
  obtain ⟨chunks, e, e', said, hlen, hsaid, hend, hrelated, hrelay⟩ :=
    exists_relay_open ctx' hsink hids .start hopen hcumulative.of_append
      (fun _ _ => List.nil_prefix) [] []
  have hpre : said.toList <+: final.firstText.toList := by
    rcases hend with rfl | ⟨event, hmem, rfl⟩
    · exact List.nil_prefix
    · exact (List.pairwise_append.mp hcumulative.grows.pairwise).2.2 event hmem final
        (List.mem_singleton_self final)
  obtain ⟨next, next', hreceive, hreceive', hnext, hlast⟩ := hrelated.receive_final
    (hcumulative.outputs final (List.mem_append_right opens (List.mem_singleton_self final)))
    hpre hfinal
  obtain ⟨hstreamed, hwhole⟩ : streamed = _ ∧ whole = _ := hrelay (.ok final :: later)
  rw [relay_cons_of_none hreceive, relayAfter_true] at hstreamed
  rw [relay_cons_of_none hreceive', relayAfter_true] at hwhole
  obtain ⟨hstreams, hreturns⟩ := hnext.finalBodies_some hlast hsaid requestId now now'
  rw [hstreamed, hwhole]
  refine ⟨Nat.add_comm 1 _, Nat.add_comm 1 _, ?_, rfl, hstreams, hreturns⟩
  rw [Relay.after_sent, Relay.after_sent, List.nil_append, List.length_map, hlen]

/-- **Streaming and not streaming agree**: both take the same items, nothing is sent ahead of a
whole, and both fail alike or say the same text. -/
theorem relay_agrees {items : List Item} (hcumulative : Cumulative (eventsOf items)) :
    let streamed := relay ctx { stream := true } [] items
    let whole := relay ctx' { stream := false } [] items
    streamed.pulled = whole.pulled ∧ whole.sent = [] ∧
      ((∃ failure, streamed.bodies requestId now = .error failure ∧
          whole.bodies requestId now' = .error failure) ∨
        ∃ text, Streams streamed.sent (streamed.bodies requestId now) text ∧
          Returns (whole.bodies requestId now') text) := by
  intro streamed whole
  obtain ⟨opens, rest, rfl, hopen, hrest⟩ := exists_open_split items
  rw [eventsOf_map_ok_append] at hcumulative
  obtain ⟨chunks, e, e', said, hlen, hsaid, hend, hrelated, hrelay⟩ :=
    exists_relay_open ctx' hsink hids .start hopen hcumulative.of_append
      (fun _ _ => List.nil_prefix) [] []
  obtain ⟨hstreamed, hwhole⟩ : streamed = _ ∧ whole = _ := hrelay rest
  rcases hrest with rfl | ⟨failure, later, rfl⟩ | ⟨final, later, rfl, hfinal⟩
  · -- the generation ends without a finished event
    rw [hstreamed, hwhole]
    refine ⟨rfl, rfl, ?_⟩
    cases hlast : e.last with
    | none => exact .inl (hrelated.finalBodies_none hlast requestId now now')
    | some event =>
      exact .inr ⟨event.firstText, hrelated.finalBodies_some hlast hsaid requestId now now'⟩
  · rw [relay_cons_of_error (e.receive_failure failure)] at hstreamed
    rw [relay_cons_of_error (e'.receive_failure failure)] at hwhole
    rw [hstreamed, hwhole]
    exact ⟨rfl, rfl, .inl ⟨failure, rfl, rfl⟩⟩
  · have hevents : eventsOf (.ok final :: later) = final :: eventsOf later := rfl
    have hfirst : Cumulative (opens ++ [final]) := by
      rw [hevents, List.append_cons] at hcumulative
      exact hcumulative.of_append
    obtain ⟨hpulled, hpulled', -, hsent, hstreams, hreturns⟩ :=
      relay_finished ctx' hsink hids now now' hopen hfinal later hfirst
    exact ⟨hpulled.trans hpulled'.symm, hsent, .inr ⟨_, hstreams, hreturns⟩⟩

end

end CompletionService
