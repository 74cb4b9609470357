import CompletionService.Proofs.Departure
import CompletionService.Proofs.Emission

/-!
# What decides a run

The engine may have more to say than the handler wants to hear. Three layers:

* items — a failure, a final event, and in a stream an event that there is no chunk for decide a
  generation: a relay stops at them, whatever follows (`relay_of_isDecisive`), and goes on behind
  all others unless their chunk is refused (`receive_of_not_isDecisive`). `relay_cons_cases` says
  both at once, and is all that the rest of the module knows of one item;
* relays — by induction on the items, nothing behind the first decisive item matters
  (`relay_upToDecisive`) or is taken (`pulled_relay_le`), and a failure that was taken is the result
  (`result_relay_of_mem`);
* wholes — as long as no failure is taken, only the last event counts (`result_relay_whole`), and
  it fails only if there is nothing in it (`exists_finalBodies_error_iff`).

Together: **the first decisive item decides a run** (`first_decisive_item_decides`).
-/

namespace CompletionService

/-! ## Decisive items -/

/-- An item is decisive if nothing that follows it matters, whoever listens: a failure, a final
event, and in a stream an event that there is no chunk for. -/
def isDecisive (stream : Bool) : Item → Bool
  | .error _ => true
  | .ok event => event.finished || (stream && event.outputs.isEmpty)

/-- The items of a generation up to the first decisive one, with it. -/
def upToDecisive (stream : Bool) : List Item → List Item
  | [] => []
  | item :: rest => if isDecisive stream item then [item] else item :: upToDecisive stream rest

section

variable {stream : Bool} {item : Item} (rest : List Item)

/-- A decisive item is the last one. -/
theorem upToDecisive_of_isDecisive (h : isDecisive stream item = true) :
    upToDecisive stream (item :: rest) = [item] := by
  rw [upToDecisive, if_pos h]

/-- Behind any other item there is more. -/
theorem upToDecisive_of_not_isDecisive (h : isDecisive stream item = false) :
    upToDecisive stream (item :: rest) = item :: upToDecisive stream rest := by
  rw [upToDecisive, h, if_neg Bool.false_ne_true]

end

theorem upToDecisive_isPrefix (stream : Bool) (items : List Item) :
    upToDecisive stream items <+: items := by
  induction items with
  | nil => exact List.prefix_rfl
  | cons item items ih =>
    cases hdecisive : isDecisive stream item with
    | true =>
      rw [upToDecisive_of_isDecisive items hdecisive]
      exact List.cons_prefix_cons.mpr ⟨rfl, List.nil_prefix⟩
    | false =>
      rw [upToDecisive_of_not_isDecisive items hdecisive]
      exact List.cons_prefix_cons.mpr ⟨rfl, ih⟩

/-- As long as none is taken behind the first decisive item, the items are those up to it. -/
theorem take_of_le_upToDecisive {stream : Bool} {items : List Item} {count : Nat}
    (h : count ≤ (upToDecisive stream items).length) :
    items.take count = (upToDecisive stream items).take count := by
  obtain ⟨rest, hrest⟩ := upToDecisive_isPrefix stream items
  rw [← List.take_append_of_le_length h, hrest]

section

variable {ctx : Context} {e : Emitter} {sent : List Intermediate} {item : Item}

/-- A relay stops at a decisive item, and passes a failure on. -/
theorem relay_of_isDecisive (h : isDecisive e.stream item = true) :
    ∃ result, (∀ rest, relay ctx e sent (item :: rest) = { pulled := 1, sent, result }) ∧
      ∀ failure, item = .error failure → result = .error failure := by
  cases item with
  | error failure =>
    refine ⟨.error failure, relay_cons_of_error (e.receive_failure failure), ?_⟩
    rintro _ ⟨⟩
    rfl
  | ok event =>
    cases hfinal : event.finished with
    | true =>
      have hreceive := Emitter.receive_of_observe (Emitter.observe_final (e := e) hfinal)
      rw [hfinal] at hreceive
      exact ⟨_, relay_cons_of_none hreceive, fun _ h => nomatch h⟩
    | false =>
      -- only a stream needs a completion, and there is none
      rw [isDecisive, hfinal, Bool.false_or, Bool.and_eq_true, List.isEmpty_iff] at h
      obtain ⟨failure, hreceive⟩ : ∃ failure, e.receive (.ok event) = .error failure := by
        simp only [Emitter.receive, Emitter.observe, h.1, hfinal, RequestOutput.firstOutput, h.2]
        exact ⟨_, rfl⟩
      exact ⟨_, relay_cons_of_error hreceive, fun _ h => nomatch h⟩

/-- Any other item is received, and is not the last one. -/
theorem receive_of_not_isDecisive (h : isDecisive e.stream item = false) :
    ∃ (event : RequestOutput) (chunk? : Option StreamChunk) (next : Emitter),
      item = .ok event ∧ e.receive item = .ok (chunk?, next, false) := by
  cases item with
  | error failure => exact nomatch h
  | ok event =>
    rw [isDecisive, Bool.or_eq_false_iff] at h
    obtain ⟨hopen, houtputs⟩ := h
    obtain ⟨chunk?, next, hobserve⟩ : ∃ chunk? next, e.observe event = .ok (chunk?, next) := by
      cases hstream : e.stream with
      | false => exact ⟨_, _, Emitter.observe_whole hstream event⟩
      | true =>
        rw [hstream, Bool.true_and, List.isEmpty_eq_false_iff] at houtputs
        obtain ⟨output, hfirst, -⟩ := RequestOutput.exists_firstOutput houtputs
        exact ⟨_, _, Emitter.observe_open hstream hopen hfirst⟩
    refine ⟨event, chunk?, next, rfl, ?_⟩
    rw [Emitter.receive_of_observe hobserve, hopen]

/-- A delivery that fails was refused a response. -/
theorem Sink.exists_refused {sink : Sink} {taken responses : List Intermediate} {e : ServiceError}
    (h : (sink.deliver taken responses).result = .error e) :
    ∃ response, (sink.deliver taken responses).refused = some response := by
  induction responses generalizing taken with
  | nil => exact nomatch h
  | cons response responses ih =>
    simp only [deliver] at h ⊢
    cases hsink : sink taken response with
    | error e => exact ⟨response, rfl⟩
    | ok _ =>
      rw [hsink] at h
      exact ih h

/-- A relay goes on after the chunk of an item, if any, or the chunk is refused. -/
theorem relayChunk_cases (ctx : Context) (sent : List Intermediate) (chunk? : Option StreamChunk)
    (next : Emitter) :
    (∃ stopped : Relay, (∀ rest, relayChunk ctx sent chunk? false next rest = stopped) ∧
        stopped.pulled = 0 ∧ stopped.refused ≠ none) ∨
      ∃ taken, ∀ rest, relayChunk ctx sent chunk? false next rest = relay ctx next taken rest := by
  cases hresult : (sendChunk ctx sent chunk?).result with
  | ok _ =>
    refine .inr ⟨(sendChunk ctx sent chunk?).taken, fun rest => ?_⟩
    simp only [relayChunk, hresult]
    rfl
  | error failure =>
    refine .inl ⟨⟨0, (sendChunk ctx sent chunk?).taken, (sendChunk ctx sent chunk?).refused,
      .error failure⟩, fun rest => by simp only [relayChunk, hresult], rfl, ?_⟩
    cases chunk? with
    | none => cases hresult
    | some chunk =>
      obtain ⟨response, hrefused⟩ := Sink.exists_refused hresult
      exact Option.ne_none_iff_exists'.mpr ⟨response, hrefused⟩

/-- **What a relay does with one item.** Either it stops there, whatever follows: the item is
decisive, or its chunk is refused. Or the item is not decisive, and the relay goes on behind it. -/
theorem relay_cons_cases (ctx : Context) (e : Emitter) (sent : List Intermediate) (item : Item) :
    (∃ stopped : Relay, (∀ rest, relay ctx e sent (item :: rest) = stopped) ∧ stopped.pulled = 1 ∧
        (stopped.refused = none → isDecisive e.stream item = true) ∧
        ∀ failure, item = .error failure → stopped.result = .error failure) ∨
      ∃ (event : RequestOutput) (next : Emitter) (taken : List Intermediate),
        item = .ok event ∧ isDecisive e.stream item = false ∧ next.stream = e.stream ∧
        ∀ rest, relay ctx e sent (item :: rest) = (relay ctx next taken rest).after 1 := by
  cases hdecisive : isDecisive e.stream item with
  | true =>
    obtain ⟨result, hrelay, hfailure⟩ := relay_of_isDecisive hdecisive
    exact .inl ⟨_, hrelay, rfl, fun _ => rfl, hfailure⟩
  | false =>
    obtain ⟨event, chunk?, next, rfl, hreceive⟩ := receive_of_not_isDecisive hdecisive
    rcases relayChunk_cases ctx sent chunk? next with
      ⟨stopped, hstopped, hpulled, hrefused⟩ | ⟨taken, htaken⟩
    · refine .inl ⟨stopped.after 1, fun rest => ?_, ?_, fun h => absurd h hrefused,
        fun _ h => nomatch h⟩
      · rw [relay_cons_of_receive hreceive, hstopped]
      · rw [Relay.after, hpulled]
    · refine .inr ⟨event, next, taken, rfl, rfl, Emitter.stream_of_receive hreceive, fun rest => ?_⟩
      rw [relay_cons_of_receive hreceive, htaken]

end

/-! ## Relays -/

/-- What is behind the first decisive item does not matter. -/
theorem relay_upToDecisive (ctx : Context) (e : Emitter) (sent : List Intermediate)
    (items : List Item) : relay ctx e sent (upToDecisive e.stream items) =
      relay ctx e sent items := by
  induction items generalizing e sent with
  | nil => rfl
  | cons item items ih =>
    rcases relay_cons_cases ctx e sent item with
      ⟨stopped, hstopped, -⟩ | ⟨event, next, taken, -, hgoes, hstream, hrelay⟩
    · rw [upToDecisive]
      split <;> rw [hstopped, hstopped]
    · rw [upToDecisive_of_not_isDecisive items hgoes, hrelay, hrelay, ← hstream, ih]

/-- A relay takes no more than there is. -/
theorem pulled_relay_le (ctx : Context) (e : Emitter) (sent : List Intermediate)
    (items : List Item) : (relay ctx e sent items).pulled ≤ items.length := by
  induction items generalizing e sent with
  | nil => exact Nat.le_refl 0
  | cons item items ih =>
    rcases relay_cons_cases ctx e sent item with
      ⟨stopped, hstopped, hpulled, -⟩ | ⟨event, next, taken, -, -, -, hrelay⟩
    · rw [hstopped, hpulled, List.length_cons]
      exact Nat.le_add_left 1 _
    · rw [hrelay]
      exact Nat.succ_le_succ (ih next taken)

/-- Unless a chunk is refused, a relay takes all items up to the first decisive one. -/
theorem pulled_relay_of_refused {ctx : Context} {e : Emitter} {sent : List Intermediate}
    {items : List Item} (h : (relay ctx e sent items).refused = none) :
    (relay ctx e sent items).pulled = (upToDecisive e.stream items).length := by
  induction items generalizing e sent with
  | nil => rfl
  | cons item items ih =>
    rcases relay_cons_cases ctx e sent item with
      ⟨stopped, hstopped, hpulled, hdecisive, -⟩ | ⟨event, next, taken, -, hgoes, hstream, hrelay⟩
    · rw [hstopped] at h ⊢
      rw [upToDecisive_of_isDecisive items (hdecisive h), hpulled, List.length_singleton]
    · rw [hrelay] at h ⊢
      rw [upToDecisive_of_not_isDecisive items hgoes, List.length_cons, ← hstream, ← ih h]
      rfl

/-- A failure that a relay takes is its result. -/
theorem result_relay_of_mem {ctx : Context} {e : Emitter} {sent : List Intermediate}
    {items : List Item} {failure : ServiceError}
    (h : .error failure ∈ items.take (relay ctx e sent items).pulled) :
    (relay ctx e sent items).result = .error failure := by
  induction items generalizing e sent with
  | nil => simp at h
  | cons item items ih =>
    rcases relay_cons_cases ctx e sent item with
      ⟨stopped, hstopped, hpulled, -, hfailure⟩ | ⟨event, next, taken, rfl, -, -, hrelay⟩
    · rw [hstopped] at h ⊢
      rw [hpulled, List.take_one, List.head?_cons, Option.mem_toList] at h
      exact hfailure failure (Option.some.inj h)
    · rw [hrelay] at h ⊢
      rcases List.mem_cons.mp h with hitem | hmem
      · exact nomatch hitem
      · exact ih hmem

/-! ### Wholes -/

/-- For a whole, an event is kept, and ends the relay if it is final. -/
theorem relay_cons_whole {ctx : Context} {e : Emitter} (h : e.stream = false)
    (sent : List Intermediate) (event : RequestOutput) (rest : List Item) :
    relay ctx e sent (.ok event :: rest) =
      if event.finished then { pulled := 1, sent, result := .ok { e with last := some event } }
      else (relay ctx { e with last := some event } sent rest).after 1 := by
  have hreceive := Emitter.receive_of_observe (Emitter.observe_whole h event)
  cases hfinal : event.finished with
  | true =>
    rw [hfinal] at hreceive
    exact relay_cons_of_none hreceive rest
  | false =>
    rw [hfinal] at hreceive
    exact relay_cons_of_none hreceive rest

/-- A whole that takes no failure keeps the last event that it takes. -/
theorem result_relay_whole {ctx : Context} {e : Emitter} (h : e.stream = false)
    {sent : List Intermediate} {items : List Item}
    (hok : ∀ failure, .error failure ∉ items.take (relay ctx e sent items).pulled) :
    (relay ctx e sent items).result = .ok { e with
      last := (eventsOf (items.take (relay ctx e sent items).pulled)).getLast?.or e.last } := by
  induction items generalizing e with
  | nil => rfl
  | cons item items ih =>
    cases item with
    | error failure =>
      rw [relay_cons_of_error (e.receive_failure failure)] at hok
      exact absurd List.mem_cons_self (hok failure)
    | ok event =>
      rw [relay_cons_whole h] at hok ⊢
      cases hfinal : event.finished with
      | true => rfl
      | false =>
        rw [hfinal, if_neg Bool.false_ne_true] at hok
        have hlast := ih (e := { e with last := some event }) h fun failure hmem =>
          hok failure (List.mem_cons_of_mem _ hmem)
        rw [if_neg Bool.false_ne_true, Relay.after, hlast, List.take_succ_cons]
        simp [eventsOf, List.getLast?_cons, Except.toOption]

/-- The final responses of such a whole come from that event. -/
theorem bodies_relay_whole {ctx : Context} {stream : Bool} {sent : List Intermediate}
    {items : List Item} (requestId : String) (now : Int64) (h : stream = false)
    (hok : ∀ failure, .error failure ∉ items.take (relay ctx { stream } sent items).pulled) :
    let relayed := relay ctx { stream } sent items
    relayed.bodies requestId now =
      finalBodies { stream, last := (eventsOf (items.take relayed.pulled)).getLast? }
        requestId now := by
  intro relayed
  rw [Relay.bodies, result_relay_whole h hok, Option.or_none]
  rfl

/-- The final responses fail exactly if there is no last event, or if it has no completion. -/
theorem exists_finalBodies_error_iff (e : Emitter) (requestId : String) (now : Int64) :
    (∃ failure, finalBodies e requestId now = .error failure) ↔
      ∀ event ∈ e.last, event.outputs = [] := by
  cases hlast : e.last with
  | none => simp [finalBodies, Emitter.finish, hlast, bind, Except.bind]
  | some event =>
    cases houtputs : event.outputs <;>
      simp [finalBodies, Emitter.finish, hlast, RequestOutput.firstOutput, houtputs, bind,
        Except.bind, pure, Except.pure]

/-! ## Runs -/

/-- What the items of a generation, of which a run has taken `count`, are to the run: it takes them
up to the first decisive one, and less only if a chunk is refused. A failure that it takes is the
result. The result of a whole that takes none comes from the last event that it takes, and it fails
exactly if there is no such event, or if it has no completion. -/
structure Run.Decided (run : Run (List String)) (call : Call) (stream : Bool) (now : Int64)
    (items : List Item) (count : Nat) : Prop where
  pulls : run.pulls = [⟨call, count⟩]
  le : count ≤ (upToDecisive stream items).length
  all : run.refused = none → count = (upToDecisive stream items).length
  failure : ∀ failure, .error failure ∈ items.take count → run.result = .error failure
  whole : stream = false → (∀ failure, .error failure ∉ items.take count) →
    run.result = finalBodies { stream, last := (eventsOf (items.take count)).getLast? }
      call.requestId now
  fails_iff : stream = false → (∀ failure, .error failure ∉ items.take count) →
    ((∃ failure, run.result = .error failure) ↔
      ∀ event ∈ (eventsOf (items.take count)).getLast?, event.outputs = [])

section

variable {engine engine' : Engine} {before before' : List Call} {request : CompletionRequest}
  {ctx : Context} {requestId : String} {others : List String}
  (hids : ctx.requestIds = requestId :: others) {items items' : List Item}
  (adapters : AdapterTable) (more : List CompletionRequest) (now : Int64)

include hids

/-- The items that a run takes decide it. -/
theorem inference_decided (h : engine before (request.call requestId) = .stream items) :
    (inference engine before adapters (request :: more) ctx now).Decided
      (request.call requestId) request.stream now items
      (relay ctx { stream := request.stream } [] items).pulled := by
  rw [inference_eq now hids, h]
  refine ⟨rfl, ?_, pulled_relay_of_refused, ?_, bodies_relay_whole requestId now, ?_⟩
  · rw [← relay_upToDecisive]
    exact pulled_relay_le ctx { stream := request.stream } [] _
  · intro failure hmem
    simp only [Outcome.relayed, Relay.bodies, result_relay_of_mem hmem]
    rfl
  · intro hstream hok
    simp only [Outcome.relayed, bodies_relay_whole requestId now hstream hok]
    exact exists_finalBodies_error_iff _ requestId now

/-- **The first decisive item decides a run.** Whatever the engine has been asked before, if it
answers one call with two lists of items that agree up to the first decisive item, then the runs are
the same, and they take the same items. -/
theorem first_decisive_item_decides
    (h : engine before (request.call requestId) = .stream items)
    (h' : engine' before' (request.call requestId) = .stream items')
    (hagree : upToDecisive request.stream items = upToDecisive request.stream items') :
    let run := inference engine before adapters (request :: more) ctx now
    run = inference engine' before' adapters (request :: more) ctx now ∧
      ∃ count, items.take count = items'.take count ∧
        run.Decided (request.call requestId) request.stream now items count := by
  intro run
  have hdecided := inference_decided hids adapters more now h
  have hrelay : relay ctx { stream := request.stream } [] items =
      relay ctx { stream := request.stream } [] items' := by
    rw [← relay_upToDecisive, hagree, relay_upToDecisive]
  refine ⟨?_, _, ?_, hdecided⟩
  · simp only [run, inference_eq now hids, h, h', Outcome.relayed, hrelay]
  · rw [take_of_le_upToDecisive hdecided.le, hagree,
      ← take_of_le_upToDecisive (hagree ▸ hdecided.le)]

end

/-- A whole is made of the final event, behind an event without a completion, which does not matter,
and before a failure, which nobody takes. -/
theorem first_decisive_item_decides_whole :
    let event (outputs : List CompletionOutput) (finished : Bool) : RequestOutput :=
      { requestId := "r", prompt := "p", outputs, finished }
    let items : List Item := [.ok (event [] false), .ok (event [{ text := "a" }] true)]
    let request : CompletionRequest := ⟨"p", false, .default, none⟩
    let run (later : List Item) := inference (fun _ _ => .stream (items ++ later)) []
      ⟨"/models", [], []⟩ [request] { requestIds := ["r"] } 0
    run [] = run [.error (.inference "late")] ∧ (run []).pulls = [⟨request.call "r", 2⟩] ∧
      ¬ ∃ failure, (run []).result = .error failure := by
  intro event items request run
  obtain ⟨hsame, count, -, hdecided⟩ : run [] = run [.error (.inference "late")] ∧ _ :=
    first_decisive_item_decides rfl _ [] 0 rfl rfl rfl
  obtain rfl : count = 2 := hdecided.all rfl
  refine ⟨hsame, hdecided.pulls, fun hfails => ?_⟩
  exact absurd ((hdecided.fails_iff rfl (by simp [items])).mp hfails _ rfl) (by decide)

end CompletionService
