import CompletionService.Proofs.Bodies
import CompletionService.Proofs.Prediction

/-!
# The wire format

What a client that reads a response to the end makes of it: the lines, and in every line a value of
the type of the body.

* `Emitter.bodies` — the bodies that items lead to, before they are texts. A run tells their texts
  (`bodies_emissions`).
* `lines_join` — lines that are joined are told apart again.
* `lines_of_response` — **what the handler produced is what the client reads**.
-/

namespace CompletionService

open Http Json

/-! ## What is produced -/

namespace Emitter

variable (requestId : String) (now : Int64)

/-- The body with what is left to say after the last event, if that has a completion. -/
def lastBody? (e : Emitter) : Option Body := do
  let event ← e.last
  let output ← event.outputs.head?
  return if e.stream then .chunk (e.advance output).1 else .envelope requestId now output

/-- The bodies that items lead to, up to the first item that is a failure or final. -/
def bodies (e : Emitter) : List Item → List Body
  | [] => (e.lastBody? requestId now).toList
  | item :: items =>
    match e.receive item with
    | .error _ => []
    | .ok (chunk?, e, last) => chunk?.toList.map .chunk ++
        if last then (e.lastBody? requestId now).toList else e.bodies items

/-- **The final response** has what is left to say; when there is nothing, the handler fails. -/
theorem finalBodies_eq (e : Emitter) :
    (∃ failure, finalBodies e requestId now = .error failure ∧ e.lastBody? requestId now = none) ∨
      ∃ body : Body, finalBodies e requestId now = .ok [body.text] ∧
        e.lastBody? requestId now = some body ∧
        (e.stream = true → ∃ chunk, body = .chunk chunk) := by
  rw [finalBodies, finish, lastBody?]
  cases e.last with
  | none => exact .inl ⟨_, rfl, rfl⟩
  | some event =>
    obtain ⟨id, prompt, outputs, finished⟩ := event
    cases outputs with
    | nil => exact .inl ⟨_, rfl, rfl⟩
    | cons output others =>
      cases e.stream with
      | true => exact .inr ⟨.chunk (e.advance output).1, rfl, rfl, fun _ => ⟨_, rfl⟩⟩
      | false => exact .inr ⟨.envelope requestId now output, rfl, rfl, fun h => absurd h Bool.false_ne_true⟩

variable {requestId now}

/-- An item does not change how a request is answered. -/
theorem stream_of_receive {e next : Emitter} {item : Item} {chunk? : Option StreamChunk}
    {last : Bool} (h : e.receive item = .ok (chunk?, next, last)) : next.stream = e.stream := by
  cases item with
  | error failure => exact nomatch h
  | ok event =>
    obtain ⟨⟨chunk, e'⟩, hobserve, hreturn⟩ := exists_of_bind_eq_ok h
    obtain rfl : e' = next := (Prod.mk.inj (Prod.mk.inj (Except.ok.inj hreturn)).2).1
    unfold observe at hobserve
    split at hobserve
    · obtain ⟨output, -, hadvance⟩ := exists_of_bind_eq_ok hobserve
      exact (congrArg Emitter.stream (Prod.mk.inj (Except.ok.inj hadvance)).2).symm
    · exact (congrArg Emitter.stream (Prod.mk.inj (Except.ok.inj hobserve)).2).symm

/-- **A stream consists of chunks.** -/
theorem exists_chunks_of_stream {e : Emitter} (h : e.stream = true) (items : List Item) :
    ∃ chunks : List StreamChunk, e.bodies requestId now items = chunks.map .chunk := by
  have hlast {e : Emitter} (h : e.stream = true) :
      ∃ chunks : List StreamChunk, (e.lastBody? requestId now).toList = chunks.map .chunk := by
    rcases e.finalBodies_eq requestId now with ⟨-, -, hnone⟩ | ⟨body, -, hsome, hchunk⟩
    · exact ⟨[], by rw [hnone]; rfl⟩
    · obtain ⟨chunk, rfl⟩ := hchunk h
      exact ⟨[chunk], by rw [hsome]; rfl⟩
  induction items generalizing e with
  | nil => exact hlast h
  | cons item items ih =>
    rw [bodies]
    cases hreceive : e.receive item with
    | error failure => exact ⟨[], rfl⟩
    | ok next =>
      obtain ⟨chunk?, next, last⟩ := next
      have hnext : next.stream = true := (stream_of_receive hreceive).trans h
      obtain ⟨later, hlater⟩ : ∃ chunks : List StreamChunk,
          (if last then (next.lastBody? requestId now).toList
            else next.bodies requestId now items) = chunks.map .chunk := by
        cases last with
        | true => exact hlast hnext
        | false => exact ih hnext
      refine ⟨chunk?.toList ++ later, ?_⟩
      rw [List.map_append, ← hlater]

end Emitter

namespace Http

namespace Emission

/-- The bodies that are told, up to a failure. -/
def bodies : List Emission → List String
  | [] => []
  | .body text :: rest => text :: bodies rest
  | .failed _ :: _ => []

/-- Frames are lines. -/
theorem frames_eq_map (emissions : List Emission) :
    frames emissions = (bodies emissions).map (· ++ "\n") := by
  induction emissions with
  | nil => rfl
  | cons first rest ih =>
    cases first with
    | body text => exact congrArg _ ih
    | failed e => rfl

/-- The first emissions have the first bodies. -/
theorem bodies_isPrefix {first all : List Emission} (h : first <+: all) :
    bodies first <+: bodies all := by
  induction first generalizing all with
  | nil => exact List.nil_prefix
  | cons emission first ih =>
    obtain ⟨rest, rfl⟩ := h
    cases emission with
    | body text => exact (List.prefix_cons_inj text).mpr (ih (List.prefix_append first rest))
    | failed e => exact List.nil_prefix

/-- A failure tells no body. -/
theorem bodies_ofResult_error (e : ServiceError) : bodies (ofResult (.error e)) = [] := by
  cases e <;> rfl

/-- The response to emissions: an error, or their bodies as lines. -/
theorem response_eq (emissions : List Emission) :
    (bodies emissions = [] ∧ ∃ e, response emissions = .ofError e) ∨
      response emissions = .stream ((bodies emissions).map (· ++ "\n")) (ending emissions) := by
  cases emissions with
  | nil => exact .inl ⟨rfl, _, rfl⟩
  | cons first rest =>
    cases first with
    | failed e => exact .inl ⟨rfl, e, rfl⟩
    | body text => exact .inr (congrArg (Response.stream · _) (frames_eq_map _))

end Emission

end Http

section

variable (requestId : String) (now : Int64)

/-- What is left to say is said by the final response. -/
theorem bodies_ofResult_finalBodies (e : Emitter) :
    Emission.bodies (Emission.ofResult (finalBodies e requestId now)) =
      (e.lastBody? requestId now).toList.map Body.text := by
  rcases e.finalBodies_eq requestId now with ⟨failure, herror, hnone⟩ | ⟨body, hok, hsome, -⟩
  · rw [herror, hnone, Emission.bodies_ofResult_error]
    rfl
  · rw [hok, hsome]
    rfl

/-- **Items**: what is told of them are the texts of the bodies that they lead to. -/
theorem bodies_tells (e : Emitter) (items : List Item) :
    Emission.bodies (e.tells requestId now items) =
      (e.bodies requestId now items).map Body.text := by
  induction items generalizing e with
  | nil => exact bodies_ofResult_finalBodies requestId now e
  | cons item items ih =>
    rw [Emitter.tells, Emitter.bodies]
    cases e.receive item with
    | error failure => exact Emission.bodies_ofResult_error failure
    | ok next =>
      obtain ⟨chunk?, next, last⟩ := next
      have hlater : Emission.bodies (if last then Emission.ofResult (finalBodies next requestId now)
            else next.tells requestId now items) =
          (if last then (next.lastBody? requestId now).toList
            else next.bodies requestId now items).map Body.text := by
        cases last with
        | true => exact bodies_ofResult_finalBodies requestId now next
        | false => exact ih next
      rw [List.map_append, ← hlater]
      cases chunk? with
      | none => rfl
      | some chunk => rfl

end

namespace Http

/-! ## Lines -/

/-- The lines of a text, each of which ends with a line end. -/
def lines (text : String) : List String :=
  (text.toList.splitOn '\n').dropLast.map String.ofList

/-- **Lines that are joined are told apart again**, as long as there is no line end in them. -/
theorem lines_join {texts : List String} (h : ∀ text ∈ texts, '\n' ∉ text.toList) :
    lines (String.join (texts.map (· ++ "\n"))) = texts := by
  have hjoin : (String.join (texts.map (· ++ "\n"))).toList =
      ['\n'].intercalate (texts.map String.toList ++ [[]]) := by
    rw [String.toList_join, List.flatMap_map]
    clear h
    induction texts with
    | nil => rfl
    | cons text texts ih =>
      rw [List.flatMap_cons, ih, List.map_cons, List.cons_append,
        List.intercalate_cons_of_ne_nil
          (List.append_ne_nil_of_right_ne_nil _ (List.cons_ne_nil _ _)),
        String.toList_append]
      rfl
  have hsplit : (String.join (texts.map (· ++ "\n"))).toList.splitOn '\n' =
      texts.map String.toList ++ [[]] := by
    rw [hjoin]
    refine List.splitOn_intercalate '\n' ?_
      (List.append_ne_nil_of_right_ne_nil _ (List.cons_ne_nil _ _))
    intro l hl
    rcases List.mem_append.mp hl with hmem | hmem
    · obtain ⟨text, htext, rfl⟩ := List.mem_map.mp hmem
      exact h text htext
    · rw [List.mem_singleton.mp hmem]
      exact List.not_mem_nil
  rw [lines, hsplit, List.dropLast_concat, List.map_map]
  exact (List.map_congr_left fun text _ => String.ofList_toList).trans (List.map_id _)

/-! ## Responses -/

variable (server : Server) (request : Request) (requestId : String) (now : Int64)
  (elapsed : Number.Binary Number.binary64)

/-- The bodies that the handler produces for a request. -/
def Server.produced : List Body :=
  match (server.exchange request requestId now).stage with
  | .pulling emitter items => emitter.bodies requestId now items
  | _ => []

/-- An exchange begins with a failure, or with the items of the engine. -/
theorem Server.stage_exchange :
    (∃ e, (server.exchange request requestId now).stage = .closing (.error e)) ∨
      ∃ (completion : CompletionRequest) (items : List Item),
        (preprocess server.handler.adapters [.ofBody request.body]
          { requestIds := [requestId], headers := [itemHeaders request] }).result =
            .ok [completion] ∧
        (server.exchange request requestId now).stage =
          .pulling { stream := completion.stream } items := by
  rw [exchange, Exchange.ofBatch]
  rcases preprocess_cases server.handler.adapters [.ofBody request.body]
    { requestIds := [requestId], headers := [itemHeaders request] } with ⟨e, he⟩ | ⟨completion, hok⟩
  · exact .inl ⟨e, by simp only [he]⟩
  · simp only [hok]
    cases server.handler.engine server.handler.calls (completion.call requestId) with
    | refused e => exact .inl ⟨e, rfl⟩
    | stream items => exact .inr ⟨completion, items, rfl, rfl⟩

/-- A request is accepted, and for a stream. -/
def Server.isStream : Bool :=
  match (preprocess server.handler.adapters [.ofBody request.body]
      { requestIds := [requestId], headers := [itemHeaders request] }).result with
  | .ok [completion] => completion.stream
  | _ => false

variable {server request requestId} in
theorem Server.exists_of_isStream (h : server.isStream request requestId = true) :
    ∃ completion, (preprocess server.handler.adapters [.ofBody request.body]
        { requestIds := [requestId], headers := [itemHeaders request] }).result =
          .ok [completion] ∧ completion.stream = true := by
  unfold isStream at h
  split at h
  · exact ⟨_, ‹_›, h⟩
  · cases h

/-- **A run tells what was produced**, as texts. -/
theorem bodies_emissions :
    Emission.bodies (server.handled request requestId now elapsed).emissions =
      (server.produced request requestId now).map Body.text := by
  have htells : (server.exchange request requestId now).stage.tells requestId now =
      (server.handled request requestId now elapsed).emissions :=
    Exchange.tells_ofBatch server.handler _ (fun _ _ => rfl) rfl now elapsed
  rw [← htells, Server.produced]
  rcases server.stage_exchange request requestId now with
    ⟨e, hstage⟩ | ⟨completion, items, -, hstage⟩
  · rw [hstage]
    exact Emission.bodies_ofResult_error e
  · rw [hstage]
    exact bodies_tells requestId now _ items

/-- The bodies of emissions are told apart in their frames. -/
theorem lines_join_frames {emissions : List Emission}
    (h : ∀ text ∈ Emission.bodies emissions, ∃ body : Body, body.text = text) :
    lines (String.join (Emission.frames emissions)) = Emission.bodies emissions := by
  rw [Emission.frames_eq_map]
  refine lines_join fun text hmem => ?_
  obtain ⟨body, rfl⟩ := h text hmem
  exact body.plain_text.newline_not_mem

/-- **The bodies for a stream are chunks.** -/
theorem Server.exists_chunks_of_stream {completion : CompletionRequest}
    (h : (preprocess server.handler.adapters [.ofBody request.body]
      { requestIds := [requestId], headers := [itemHeaders request] }).result = .ok [completion])
    (hstream : completion.stream = true) :
    ∃ chunks : List StreamChunk, server.produced request requestId now = chunks.map .chunk := by
  rw [produced]
  rcases server.stage_exchange request requestId now with
    ⟨e, hstage⟩ | ⟨completion', items, hok, hstage⟩
  · rw [hstage]
    exact ⟨[], rfl⟩
  · obtain ⟨rfl, -⟩ := List.cons.inj (Except.ok.inj (hok.symm.trans h))
    rw [hstage]
    exact Emitter.exists_chunks_of_stream hstream items

/-- **What the handler produced is what the client reads.** Every body is a text without control
characters, from which it is read again. So whatever the engine says, a response that is no error is
told apart into the bodies that were emitted, and for a stream they are read as the chunks that were
produced. The same is true at any moment, in whatever order the handler tells and the client
receives, and even if it leaves: what it has received is told apart into the first of the bodies. -/
theorem lines_of_response :
    let produced := server.produced request requestId now
    let emitted := Emission.bodies (server.handled request requestId now elapsed).emissions
    let response := (server.predict request .stays requestId now elapsed).response
    (∀ body : Body, (∀ octet ∈ body.text.toUTF8.data, 0x20 ≤ octet.toNat) ∧
      body.IsReadFrom body.text) ∧
    emitted = produced.map Body.text ∧
    (server.Serves request →
      (server.answer request .stays requestId now elapsed).response = response) ∧
    ((emitted = [] ∧ ∃ e, response = .ofError e) ∨
      response.status = 200 ∧ lines (String.join response.frames) = emitted) ∧
    (∀ completion, (preprocess server.handler.adapters [.ofBody request.body]
        { requestIds := [requestId], headers := [itemHeaders request] }).result =
          .ok [completion] → completion.stream = true →
      ∃ chunks : List StreamChunk, produced = chunks.map .chunk ∧
        emitted.map (readAs StreamChunk.shape StreamChunk.ofJson) = chunks.map .ok) ∧
    ∀ x, Relation.ReflTransGen Exchange.Step (server.exchange request requestId now) x →
      lines (String.join (Emission.frames x.received)) = Emission.bodies x.received ∧
        Emission.bodies x.received <+: emitted := by
  intro produced emitted response
  have hemitted : emitted = produced.map Body.text :=
    bodies_emissions server request requestId now elapsed
  have htext : ∀ text ∈ emitted, ∃ body : Body, body.text = text := by
    rw [hemitted]
    intro text hmem
    obtain ⟨body, -, htext⟩ := List.mem_map.mp hmem
    exact ⟨body, htext⟩
  refine ⟨fun body => ⟨body.octets_text, body.isReadFrom_text⟩, hemitted, fun hserves => ?_, ?_,
    fun completion hok hstream => ?_, fun x hreached => ?_⟩
  · rw [Server.answer_of_serves requestId now elapsed hserves]
  · have hresponse : response = Emission.response _ :=
      server.response_predict request requestId now elapsed
    rcases Emission.response_eq (server.handled request requestId now elapsed).emissions with
      ⟨hnone, e, he⟩ | hstream
    · exact .inl ⟨hnone, e, hresponse.trans he⟩
    · refine .inr ?_
      rw [hresponse, hstream, ← Emission.frames_eq_map]
      exact ⟨Response.stream_status _ _, lines_join_frames htext⟩
  · obtain ⟨chunks, hchunks⟩ := server.exists_chunks_of_stream request requestId now hok hstream
    refine ⟨chunks, hchunks, ?_⟩
    rw [hemitted, show produced = _ from hchunks, List.map_map, List.map_map]
    exact List.map_congr_left fun chunk _ => (Body.chunk chunk).isReadFrom_text
  · have hprefix : x.received <+: (server.handled request requestId now elapsed).emissions := by
      have hreceived := Exchange.received_isPrefix_of_reached hreached rfl
      rwa [whole_of_reached_exchange server request requestId now elapsed .refl rfl] at hreceived
    have hbodies := Emission.bodies_isPrefix hprefix
    exact ⟨lines_join_frames fun text hmem => htext text (hbodies.subset hmem), hbodies⟩

/-- A stream that says every class of characters: a line end, a quote, a backslash, a control
character and one beyond the basic plane. -/
theorem lines_of_response_escapes :
    let event (text : String) (token : UInt32) : RequestOutput :=
      { requestId := "r", prompt := "p", outputs := [{ text, tokenIds := [token] }] }
    let handler : Handler :=
      { engine := fun _ _ =>
          .stream [.ok (event "é\n\"" 1), .ok (event "é\n\"\\\x01😀" 4294967295)],
        args := .ofModel "m", adapters := ⟨"/models", [], []⟩ }
    let request : Request :=
      { method := "POST", target := "/predictions/m",
        body := (Json.object [("prompt", .string "p"), ("stream", .boolean true)]).text.toUTF8 }
    let response :=
      (Server.predict ⟨"m", handler⟩ request .stays "r" 0 (.infinite false)).response
    let chunks : List StreamChunk :=
      [⟨"é\n\"", some 1⟩, ⟨"\\\x01😀", some 4294967295⟩, ⟨"", some 4294967295⟩]
    response.status = 200 ∧ (lines (String.join response.frames)).map
      (readAs StreamChunk.shape StreamChunk.ofJson) = chunks.map .ok := by
  intro event handler request response chunks
  have hproduced : Server.produced ⟨"m", handler⟩ request "r" 0 = chunks.map .chunk := by
    decide +kernel +revert
  have hstream : Server.isStream ⟨"m", handler⟩ request "r" = true := by decide +kernel +revert
  obtain ⟨-, hemitted, -, hlines, hchunks, -⟩ :=
    lines_of_response ⟨"m", handler⟩ request "r" 0 (.infinite false)
  obtain ⟨hstatus, hlines⟩ := hlines.resolve_left fun h => by
    rw [hemitted, hproduced] at h
    cases h.1
  obtain ⟨completion, hok, hasked⟩ := Server.exists_of_isStream hstream
  obtain ⟨chunks', hsame, hread⟩ := hchunks completion hok hasked
  have hinj : Function.Injective Body.chunk := fun _ _ h => Body.chunk.inj h
  obtain rfl : chunks' = chunks := List.map_injective_iff.mpr hinj (hsame.symm.trans hproduced)
  rw [hlines]
  exact ⟨hstatus, hread⟩

end Http

end CompletionService
