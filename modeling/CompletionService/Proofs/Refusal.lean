import CompletionService.Proofs.Departure
import Mathlib.Order.Bounds.Defs

/-!
# Sinks that stop listening

A relay into a sink that takes so many responses, and the same relay into one that takes all. They
are the same as long as there is room. Three layers:

* items — the chunk of an item is taken or refused (`relay_cons_of_room`, `relay_cons_of_full`),
  and a relay only adds to what was sent (`sent_isPrefix_relayAfter`);
* `Relay.CutShort` — what a relay is that ends with a refusal, in terms of the relay that has all
  the room. **Step**: `CutShort.of_refused` for the item whose chunk is refused, and
  `CutShort.cons` for an item before it;
* relays — by induction on the items, a relay with less room is the same or is cut short
  (`relay_limited_cases`).

Together: **a refusal only cuts a run short** (`refusal_cuts_run_short`).
-/

namespace CompletionService

/-- The same context, with a sink that takes so many responses. -/
def Context.limited (ctx : Context) (count : Nat) : Context := { ctx with sink := .limited count }

theorem Context.sink_limited (ctx : Context) (count : Nat) :
    (ctx.limited count).sink = .limited count := rfl

/-! ## The chunk of an item -/

section

variable {ctx : Context} {requestId : String} {others : List String}
  (hids : ctx.requestIds = requestId :: others) {sent : List Intermediate} {e next : Emitter}
  {item : Item} {chunk? : Option StreamChunk} {last : Bool}

include hids

/-- A sink that has room for the chunk of an item takes it, if any. -/
theorem relay_cons_of_room {count : Nat} (h : e.receive item = .ok (chunk?, next, last))
    (hroom : (sent ++ chunk?.toList.map (·.response requestId)).length ≤ count)
    (rest : List Item) :
    relay (ctx.limited count) e sent (item :: rest) =
      (relayAfter (ctx.limited count) (sent ++ chunk?.toList.map (·.response requestId)) last next
        rest).after 1 := by
  refine relay_cons_of_taken h (fun chunk hchunk => ?_) rest
  obtain rfl := Option.mem_def.mp hchunk
  rw [Option.toList_some, List.map_singleton, List.length_append, List.length_singleton] at hroom
  exact sendChunk_of_lt (ctx.sink_limited count) hids chunk hroom

/-- A sink without room refuses the chunk of an item. -/
theorem relay_cons_of_full {chunk : StreamChunk} (h : e.receive item = .ok (some chunk, next, last))
    (rest : List Item) :
    relay (ctx.limited sent.length) e sent (item :: rest) =
      { pulled := 1, sent, refused := some (chunk.response requestId),
        result := .error (.cancelled requestId) } := by
  rw [relay_cons_of_receive h,
    relayChunk_of_le (ctx.sink_limited _) hids chunk last next (Nat.le_refl _)]
  rfl

/-- A relay only adds to what was sent before. -/
theorem sent_isPrefix_relayAfter (hsink : ctx.sink.NeverRefuses) (sent : List Intermediate)
    (last : Bool) (e : Emitter) (items : List Item) :
    sent <+: (relayAfter ctx sent last e items).sent := by
  induction items generalizing sent last e with
  | nil => cases last <;> exact List.prefix_rfl
  | cons item items ih =>
    cases last with
    | true => exact List.prefix_rfl
    | false =>
      change sent <+: (relay ctx e sent (item :: items)).sent
      cases hreceive : e.receive item with
      | error failure =>
        exact (relay_cons_of_error hreceive items).symm ▸ List.prefix_rfl
      | ok next =>
        obtain ⟨chunk?, next, last⟩ := next
        rw [relay_cons_of_neverRefuses hsink hids hreceive, Relay.after_sent]
        exact (List.prefix_append sent _).trans (ih _ last next)

end

/-! ## Relays that are cut short -/

/-- A relay of items is cut short by a sink that takes `count` responses, where `whole` tells how
items are relayed otherwise: there are more responses, the next one is refused, and the item that
it belongs to is the last that is taken. -/
structure Relay.CutShort (cut : Relay) (count : Nat) (whole : List Item → Relay)
    (items : List Item) : Prop where
  more : count < (whole items).sent.length
  sent : cut.sent = (whole items).sent.take count
  refused : cut.refused = (whole items).sent[count]?
  pulled : IsLeast {k | count < (whole (items.take k)).sent.length} cut.pulled

namespace Relay.CutShort

variable {cut : Relay} {count : Nat} {whole whole' : List Item → Relay} {item : Item}
  {items : List Item}

/-- **Step**: an item is taken before a relay is cut short. -/
theorem cons (h : cut.CutShort count whole' items)
    (hcons : ∀ rest, whole (item :: rest) = (whole' rest).after 1)
    (hnil : (whole []).sent.length ≤ count) :
    (cut.after 1).CutShort count whole (item :: items) := by
  have hsent (rest : List Item) : (whole (item :: rest)).sent = (whole' rest).sent := by
    rw [hcons, after_sent]
  refine ⟨?_, ?_, ?_, ?_, fun k hk => ?_⟩
  · rw [hsent]
    exact h.more
  · rw [hsent]
    exact h.sent
  · rw [hsent]
    exact h.refused
  · change count < (whole (item :: items.take cut.pulled)).sent.length
    rw [hsent]
    exact h.pulled.1
  · cases k with
    | zero => exact absurd hk (Nat.not_lt.mpr hnil)
    | succ k =>
      change count < (whole (item :: items.take k)).sent.length at hk
      rw [hsent] at hk
      exact Nat.succ_le_succ (h.pulled.2 hk)

/-- **Step**: a relay is cut short at an item whose response is the first without room. -/
theorem of_refused {sent : List Intermediate} {response : Intermediate}
    {result : Except ServiceError Emitter} (hnil : (whole []).sent = sent)
    (hcons : ∀ rest, sent ++ [response] <+: (whole (item :: rest)).sent) :
    Relay.CutShort { pulled := 1, sent, refused := some response, result } sent.length whole
      (item :: items) := by
  have hmore (rest : List Item) : sent.length < (whole (item :: rest)).sent.length := by
    have hlen := (hcons rest).length_le
    rwa [List.length_append, List.length_singleton] at hlen
  obtain ⟨later, hlater⟩ := hcons items
  rw [List.append_assoc] at hlater
  refine ⟨hmore items, ?_, ?_, hmore [], fun k hk => ?_⟩
  · rw [← hlater, List.take_left]
  · rw [← hlater, List.getElem?_append_right (Nat.le_refl _), Nat.sub_self]
    rfl
  · cases k with
    | zero =>
      change sent.length < (whole []).sent.length at hk
      rw [hnil] at hk
      exact absurd hk (Nat.lt_irrefl _)
    | succ k => exact Nat.le_add_left 1 k

end Relay.CutShort

/-- **Run**: a relay into a sink that takes `count` responses is the same as into one that takes
everything, if that is enough, and cut short otherwise. -/
theorem relay_limited_cases {ctx : Context} (hsink : ctx.sink.NeverRefuses) {requestId : String}
    {others : List String} (hids : ctx.requestIds = requestId :: others) {count : Nat}
    {sent : List Intermediate} (hroom : sent.length ≤ count) (e : Emitter) (items : List Item) :
    ((relay ctx e sent items).sent.length ≤ count ∧
        relay (ctx.limited count) e sent items = relay ctx e sent items) ∨
      (relay (ctx.limited count) e sent items).CutShort count (relay ctx e sent) items := by
  induction items generalizing e sent with
  | nil => exact .inl ⟨hroom, rfl⟩
  | cons item items ih =>
    cases hreceive : e.receive item with
    | error failure =>
      rw [relay_cons_of_error hreceive, relay_cons_of_error hreceive]
      exact .inl ⟨hroom, rfl⟩
    | ok next =>
      obtain ⟨chunk?, next, last⟩ := next
      have hwhole (rest : List Item) : relay ctx e sent (item :: rest) = _ :=
        relay_cons_of_neverRefuses hsink hids hreceive rest
      rcases Nat.lt_or_ge count (sent ++ chunk?.toList.map (·.response requestId)).length with
        hfull | hroom'
      · -- there is a chunk, and no room for it
        cases chunk? with
        | none => exact absurd hroom (Nat.not_le.mpr (by simpa using hfull))
        | some chunk =>
          obtain rfl : sent.length = count :=
            Nat.le_antisymm hroom (Nat.lt_succ_iff.mp (by simpa using hfull))
          rw [relay_cons_of_full hids hreceive]
          refine .inr (.of_refused rfl fun rest => ?_)
          rw [hwhole]
          exact sent_isPrefix_relayAfter hids hsink _ last next rest
      · rw [relay_cons_of_room hids hreceive hroom']
        cases last with
        | true =>
          rw [hwhole]
          exact .inl ⟨hroom', rfl⟩
        | false =>
          rcases ih hroom' next with ⟨hle, hsame⟩ | hshort
          · rw [hwhole]
            exact .inl ⟨hle, congrArg (Relay.after 1) hsame⟩
          · exact .inr (hshort.cons hwhole hroom)

/-- **Run**: and so is the answer of an engine, of which only a stream can be cut short. -/
theorem Outcome.relayed_limited_cases (outcome : Outcome) {ctx : Context}
    (hsink : ctx.sink.NeverRefuses) {requestId : String} {others : List String}
    (hids : ctx.requestIds = requestId :: others) (stream : Bool) (count : Nat) :
    ((outcome.relayed ctx stream).sent.length ≤ count ∧
        outcome.relayed (ctx.limited count) stream = outcome.relayed ctx stream) ∨
      ∃ items, outcome = .stream items ∧ (relay (ctx.limited count) { stream } [] items).CutShort
        count (relay ctx { stream } []) items := by
  cases outcome with
  | refused failure => exact .inl ⟨Nat.zero_le count, rfl⟩
  | stream items =>
    exact (relay_limited_cases hsink hids (Nat.zero_le count) { stream } items).imp_right
      fun hshort => ⟨items, rfl, hshort⟩

/-! ## Runs that are cut short -/

section

variable {engine : Engine} {before : List Call} {adapters : AdapterTable}
  {batch : List RequestItem} {ctx : Context} (now : Int64)
  (elapsed : Number.Binary Number.binary64) {request : CompletionRequest} {requestId : String}
  {others : List String}

/-- With less room a run is the same if the answer of the engine is relayed in the same way. -/
theorem handle_limited_of_relayed {count : Nat}
    (hok : (preprocess adapters batch ctx).result = .ok [request])
    (hids : ctx.requestIds = requestId :: others)
    (h : (engine before (request.call requestId)).relayed (ctx.limited count) request.stream =
      (engine before (request.call requestId)).relayed ctx request.stream) :
    handle engine before adapters batch (ctx.limited count) now elapsed =
      handle engine before adapters batch ctx now elapsed := by
  have hprepared : preprocess adapters batch (ctx.limited count) =
      preprocess adapters batch ctx := rfl
  have hids' : (ctx.limited count).requestIds = requestId :: others := hids
  simp only [handle, hprepared, hok, inference_eq now hids, inference_eq now hids', h]

/-- **A refusal only cuts a run short.** Let a request be handled with a sink that takes everything,
and with one that takes `count` responses. If the first run sends no more than that, then the runs
are the same. Otherwise the second run sends the first `count` responses of the first one, and is
refused the next. It is cancelled for the request and not measured, however the first run ended, and
it takes the least number of items from which the first run sends more than `count` responses:
nothing after the item whose response is refused. -/
theorem refusal_cuts_run_short (hok : (preprocess adapters batch ctx).result = .ok [request])
    (hids : ctx.requestIds = requestId :: others) (hsink : ctx.sink.NeverRefuses) (count : Nat) :
    let whole := handle engine before adapters batch ctx now elapsed
    let cut := handle engine before adapters batch (ctx.limited count) now elapsed
    (whole.sent.length ≤ count → cut = whole) ∧
      (count < whole.sent.length →
        cut.sent = whole.sent.take count ∧ cut.refused = whole.sent[count]? ∧
        cut.result = .error (.cancelled requestId) ∧ cut.metrics = [] ∧
        ∃ (items : List Item) (pulled : Nat),
          engine before (request.call requestId) = .stream items ∧
          cut.pulls = [⟨request.call requestId, pulled⟩] ∧
          IsLeast {k | count < (handle (fun _ _ => .stream (items.take k)) before adapters batch ctx
            now elapsed).sent.length} pulled) := by
  intro whole cut
  have hids' : (ctx.limited count).requestIds = requestId :: others := hids
  have hok' : (preprocess adapters batch (ctx.limited count)).result = .ok [request] := hok
  have hwhole (engine : Engine) : (handle engine before adapters batch ctx now elapsed).sent =
      ((engine before (request.call requestId)).relayed ctx request.stream).sent :=
    (handle_of_call now elapsed hok hids).2.2
  rcases (engine before (request.call requestId)).relayed_limited_cases hsink hids request.stream
    count with ⟨hroom, hsame⟩ | ⟨items, houtcome, hshort⟩
  · rw [← hwhole engine] at hroom
    exact ⟨fun _ => handle_limited_of_relayed now elapsed hok hids hsame,
      fun hmore => absurd hroom (Nat.not_le.mpr hmore)⟩
  · obtain ⟨-, hpulls, hsent⟩ : cut.result = _ ∧ cut.pulls = _ ∧ cut.sent = _ :=
      handle_of_call now elapsed hok' hids'
    have hrefused : cut.refused = _ := refused_handle_of_call now elapsed hok' hids'
    have hall : whole.sent = _ := hwhole engine
    rw [houtcome] at hpulls hsent hrefused hall
    refine ⟨fun hroom => ?_, fun hmore => ?_⟩
    · rw [hall] at hroom
      exact absurd hshort.more (Nat.not_lt.mpr hroom)
    · have hnext : cut.refused = whole.sent[count]? := by
        rw [hall]
        exact hrefused.trans hshort.refused
      have hsome : cut.refused ≠ none := by
        rw [hnext, List.getElem?_eq_getElem hmore]
        exact Option.some_ne_none _
      obtain ⟨hresult, hmetrics⟩ := handle_of_refused (ctx.sink_limited count) hids' now elapsed
        hsome
      refine ⟨?_, hnext, hresult, hmetrics, items, _, houtcome, hpulls, ?_⟩
      · rw [hall]
        exact hsent.trans hshort.sent
      · simp only [hwhole]
        exact hshort.pulled

end

/-- An engine that fails after two chunks: with room for both the client is told so, and with room
for one the run is cancelled at the second, and the engine is not heard any more. -/
theorem refusal_cuts_run_short_second :
    let item (text : String) : Item :=
      .ok { requestId := "r", prompt := "p", outputs := [{ text, tokenIds := [1] }] }
    let items := [item "a", item "ab", .error (.inference "broken")]
    let request : RequestItem :=
      { data := some (.json [("prompt", .string "p"), ("stream", .boolean true)]) }
    let run (items : List Item) (sink : Sink) := handle (fun _ _ => .stream items) []
      ⟨"/models", [], []⟩ [request] { requestIds := ["r"], sink } 0 (.infinite false)
    (run items .unlimited).result.mapError (·.message) =
        .error "model execution failed: broken" ∧
      run items (.limited 2) = run items .unlimited ∧
      (run items (.limited 1)).sent = (run items .unlimited).sent.take 1 ∧
      (run items (.limited 1)).result = .error (.cancelled "r") ∧
      ∃ call, (run items (.limited 1)).pulls = [⟨call, 2⟩] := by
  intro item items request run
  have hprepared : (preprocess ⟨"/models", [], []⟩ [request] { requestIds := ["r"] }).result.isOk =
      true := by decide +kernel +revert
  have hresult : (run items .unlimited).result.mapError (·.message) =
      .error "model execution failed: broken" := by decide +kernel +revert
  have hsent : (run items .unlimited).sent.length = 2 := by decide +kernel +revert
  have htwo : 1 < (run (items.take 2) .unlimited).sent.length := by decide +kernel +revert
  have hless : ∀ k < 2, ¬ 1 < (run (items.take k) .unlimited).sent.length := by
    decide +kernel +revert
  obtain ⟨completion, hok⟩ := (preprocess_cases ⟨"/models", [], []⟩ [request]
    { requestIds := ["r"] }).resolve_left fun ⟨e, he⟩ => by rw [he] at hprepared; cases hprepared
  have hcut (count : Nat) : (_ → run items (.limited count) = run items .unlimited) ∧ _ :=
    refusal_cuts_run_short 0 (.infinite false) hok rfl (fun _ _ => rfl) count
  obtain ⟨hfirst, -, hcancelled, -, _, pulled, houtcome, hpulls, hleast⟩ :=
    (hcut 1).2 (Nat.lt_of_lt_of_eq Nat.one_lt_two hsent.symm)
  obtain rfl := Outcome.stream.inj houtcome
  obtain rfl : pulled = 2 :=
    Nat.le_antisymm (hleast.2 htwo) (Nat.le_of_not_lt fun hlt => hless pulled hlt hleast.1)
  exact ⟨hresult, (hcut 2).1 (Nat.le_of_eq hsent), hfirst, hcancelled, _, hpulls⟩

end CompletionService
