import CompletionService.Proofs.Wire
import Mathlib.Algebra.GroupWithZero.Nat
import Mathlib.Logic.Function.Iterate

/-!
# Clients that leave

The client may leave before any turn of an exchange. Four layers:

* relays into a sink that takes so many chunks: the first chunk that it refuses ends the run, which
  is then cancelled and not measured (`cancelled_of_refused`, `handle_of_refused`);
* `Exchange.Left` — once the client has left, nothing is accepted and nothing is received. For a
  stream the handler still takes at most one item (`pulled_le_of_left`), and is at its end after
  three turns (`isClosed_of_left`);
* `Exchange.Mirrors` — what the handler does in an exchange is a relay into a sink that takes as
  many chunks as the queue took. **Step**: `Mirrors.step`; **run**: `Mirrors.of_reached`;
* `Reading.frames` — whoever hears the first emissions has read the first frames of the response
  (`Reading.frames_isPrefix`).

Together: **leaving only cuts an exchange short** (`departure_cuts_short`).
-/

namespace CompletionService

/-- In a stream an item without a chunk is the last one. -/
theorem Emitter.last_of_receive_none {e next : Emitter} {item : Item} {last : Bool}
    (hstream : e.stream = true) (h : e.receive item = .ok (none, next, last)) : last = true := by
  cases item with
  | error failure => exact nomatch h
  | ok event =>
    obtain ⟨⟨chunk, e'⟩, hobserve, hreturn⟩ := exists_of_bind_eq_ok h
    obtain ⟨rfl, hlast⟩ := Prod.mk.inj (Except.ok.inj hreturn)
    obtain rfl := (Prod.mk.inj hlast).2
    unfold observe at hobserve
    split at hobserve
    · obtain ⟨output, -, hadvance⟩ := exists_of_bind_eq_ok hobserve
      exact nomatch (Prod.mk.inj (Except.ok.inj hadvance)).1
    · rename_i hfinal
      rw [hstream] at hfinal
      simpa using hfinal

/-! ## Sinks that take so many -/

section

variable {ctx : Context} {count : Nat} (hsink : ctx.sink = .limited count) {requestId : String}
  {others : List String} (hids : ctx.requestIds = requestId :: others)
  {sent : List Intermediate} (chunk : StreamChunk) (last : Bool) (e : Emitter)

include hsink hids

/-- As long as there is room, a chunk is taken. -/
theorem sendChunk_of_lt (h : sent.length < count) : sendChunk ctx sent (some chunk) =
    { taken := sent ++ [chunk.response requestId], result := .ok () } := by
  simp only [sendChunk, Context.send, Context.responses, hids, hsink, List.zipWith_cons_cons,
    List.zipWith_nil_right, Sink.deliver, Sink.limited, if_pos h]
  rfl

/-- The first chunk without room is refused, since nobody listens any more. -/
theorem sendChunk_of_le (h : count ≤ sent.length) : sendChunk ctx sent (some chunk) =
    { taken := sent, refused := some (chunk.response requestId),
      result := .error (.cancelled requestId) } := by
  simp only [sendChunk, Context.send, Context.responses, hids, hsink, List.zipWith_cons_cons,
    List.zipWith_nil_right, Sink.deliver, Sink.limited, if_neg (Nat.not_lt.mpr h)]
  rfl

/-- A relay goes on after a chunk for which there is room. -/
theorem relayChunk_of_lt (h : sent.length < count) (rest : List Item) :
    relayChunk ctx sent (some chunk) last e rest =
      relayAfter ctx (sent ++ [chunk.response requestId]) last e rest := by
  simp only [relayChunk, sendChunk_of_lt hsink hids chunk h]

/-- A relay ends with a chunk for which there is none. -/
theorem relayChunk_of_le (h : count ≤ sent.length) (rest : List Item) :
    relayChunk ctx sent (some chunk) last e rest =
      { pulled := 0, sent, refused := some (chunk.response requestId),
        result := .error (.cancelled requestId) } := by
  simp only [relayChunk, sendChunk_of_le hsink hids chunk h]

/-- **A relay that ends with a chunk that is refused** is cancelled, for the first request. -/
theorem cancelled_of_refused {items : List Item} (h : (relay ctx e sent items).refused ≠ none) :
    (relay ctx e sent items).result = .error (.cancelled requestId) := by
  induction items generalizing e sent with
  | nil => exact absurd rfl h
  | cons item items ih =>
    have hafter {next : Emitter} {sent : List Intermediate} {last : Bool}
        (h : (relayAfter ctx sent last next items).refused ≠ none) :
        (relayAfter ctx sent last next items).result = .error (.cancelled requestId) := by
      cases last with
      | true => exact absurd rfl h
      | false => exact ih next h
    cases hreceive : e.receive item with
    | error failure =>
      rw [relay_cons_of_error hreceive] at h
      exact absurd rfl h
    | ok next =>
      obtain ⟨chunk?, next, last⟩ := next
      rw [relay_cons_of_receive hreceive] at h ⊢
      cases chunk? with
      | none => exact hafter h
      | some chunk =>
        rcases Nat.lt_or_ge sent.length count with hlt | hle
        · rw [relayChunk_of_lt hsink hids chunk last next hlt items] at h ⊢
          exact hafter h
        · rw [relayChunk_of_le hsink hids chunk last next hle items]
          rfl

end

/-! ## Runs and relays -/

/-- All that can be seen of the responses of a run is what came of a relay. -/
structure Run.Relays (run : Run (List String)) (requestId : String) (now : Int64)
    (relayed : Relay) : Prop where
  result : run.result = relayed.bodies requestId now
  pulls : (run.pulls.map (·.count)).sum = relayed.pulled
  sent : run.sent = relayed.sent
  refused : run.refused = relayed.refused

/-- How a batch is preprocessed does not depend on the context, which only matters for the log. -/
theorem result_preprocess (adapters : AdapterTable) (batch : List RequestItem)
    (ctx ctx' : Context) :
    (preprocess adapters batch ctx).result = (preprocess adapters batch ctx').result := by
  match batch with
  | [] => rfl
  | _ :: _ :: _ => rfl
  | [item] =>
    simp only [preprocess]
    rcases decodePayload item with e | members
    · rfl
    · simp only
      rcases CompletionRequest.prepare members adapters with ⟨e | request, after⟩
      · rfl
      · rfl

/-- **A run that ends with a chunk that is refused** is cancelled, and not measured. -/
theorem handle_of_refused {engine : Engine} {before : List Call} {adapters : AdapterTable}
    {batch : List RequestItem} {ctx : Context} {count : Nat} (hsink : ctx.sink = .limited count)
    {requestId : String} {others : List String} (hids : ctx.requestIds = requestId :: others)
    (now : Int64) (elapsed : Number.Binary Number.binary64)
    (h : (handle engine before adapters batch ctx now elapsed).refused ≠ none) :
    let run := handle engine before adapters batch ctx now elapsed
    run.result = .error (.cancelled requestId) ∧ run.metrics = [] := by
  intro run
  have hresult : run.result = .error (.cancelled requestId) := by
    rcases preprocess_cases adapters batch ctx with ⟨e, he⟩ | ⟨request, hok⟩
    · -- a batch that is rejected sends nothing
      simp only [handle, he] at h
      exact absurd rfl h
    · obtain ⟨hbodies, -⟩ : run.result = ((engine before (request.call requestId)).relayed ctx
          request.stream).bodies requestId now ∧ _ := handle_of_call now elapsed hok hids
      rw [refused_handle_of_call now elapsed hok hids] at h
      rw [hbodies]
      cases houtcome : engine before (request.call requestId) with
      | refused e =>
        rw [houtcome] at h
        exact absurd rfl h
      | stream items =>
        rw [houtcome] at h
        have hcancelled := cancelled_of_refused hsink hids { stream := request.stream } h
        rw [Outcome.relayed, Relay.bodies, hcancelled]
        rfl
  exact ⟨hresult, metrics_handle_of_error now elapsed hresult⟩

namespace Http

/-- The exchange is about a stream, as far as it still matters. -/
def Stage.Streams : Stage → Prop
  | .pulling emitter _ => emitter.stream = true
  | .sending _ _ emitter _ => emitter.stream = true
  | .closing _ => True
  | .closed _ => True

/-- The chunk that the handler is about to send. -/
def Stage.chunk? : Stage → Option StreamChunk
  | .sending chunk _ _ _ => some chunk
  | .pulling _ _ | .closing _ | .closed _ => none

theorem Stage.exists_of_chunk? {stage : Stage} {chunk : StreamChunk}
    (h : stage.chunk? = some chunk) :
    ∃ last emitter items, stage = .sending chunk last emitter items := by
  cases stage with
  | sending c last emitter items =>
    obtain rfl := Option.some.inj h
    exact ⟨last, emitter, items, rfl⟩
  | _ => cases h

/-- The items of a stream that the handler may still take if nobody listens. -/
def Stage.pullsUnheard : Stage → Nat
  | .pulling _ _ => 1
  | .sending _ _ _ _ | .closing _ | .closed _ => 0

/-- The turns that the handler of a stream may still have if nobody listens. -/
def Stage.turnsUnheard : Stage → Nat
  | .pulling _ _ => 3
  | .sending _ _ _ _ => 2
  | .closing _ => 1
  | .closed _ => 0

theorem Stage.pullsUnheard_le (stage : Stage) : stage.pullsUnheard ≤ 1 := by
  cases stage
  case pulling => exact Nat.le_refl 1
  all_goals exact Nat.zero_le 1

theorem Stage.turnsUnheard_le (stage : Stage) : stage.turnsUnheard ≤ 3 := by
  cases stage
  case pulling => exact Nat.le_refl 3
  case sending => exact Nat.le_succ 2
  case closing => exact Nat.le_add_left 1 2
  case closed => exact Nat.zero_le 3

namespace Exchange

variable {x y : Exchange}

/-! ## Turns after the client has left -/

/-- The client has left, and what it had not received is lost. -/
structure Left (x : Exchange) : Prop where
  disconnected : x.connected = false
  lost : x.queue = []

/-- What is sent counts as accepted only if somebody listens. -/
theorem accepted_handlerTurn (x : Exchange) :
    x.accepted ≤ x.handlerTurn.accepted ∧
      (x.connected = false → x.handlerTurn.accepted = x.accepted) := by
  unfold handlerTurn
  split
  case h_3 =>
    split
    · rename_i hconnected
      exact ⟨Nat.le_succ _, fun hleft => absurd hconnected (Bool.eq_false_iff.mp hleft)⟩
    · exact ⟨Nat.le_refl _, fun _ => rfl⟩
  case h_4 =>
    unfold emit
    split <;> exact ⟨Nat.le_refl _, fun _ => rfl⟩
  all_goals exact ⟨Nat.le_refl _, fun _ => rfl⟩

/-- Receiving changes the queue and what was received, and nothing else. -/
theorem receive_frame (x : Exchange) :
    x.receive = { x with queue := x.receive.queue, received := x.receive.received } := by
  rw [receive]
  split <;> rfl

/-- **Step**: after the client has left, nothing is accepted and nothing is received. -/
theorem Left.step (h : x.Left) (hstep : Step x y) :
    y.Left ∧ y.accepted = x.accepted ∧ y.received = x.received := by
  cases hstep with
  | handler =>
    obtain ⟨-, -, hconnected, hreceived⟩ := x.handlerTurn_frame
    refine ⟨⟨hconnected.trans h.disconnected, ?_⟩, x.accepted_handlerTurn.2 h.disconnected,
      hreceived⟩
    rw [queue_handlerTurn h.disconnected, h.lost]
  | receive =>
    have hsame : x.receive = x := by rw [receive, h.lost]
    rw [hsame]
    exact ⟨h, rfl, rfl⟩
  | leave => exact ⟨⟨rfl, rfl⟩, rfl, rfl⟩

/-- **Run**: after the client has left, nothing is accepted and nothing is received. -/
theorem Left.of_reached (h : x.Left) (hreached : Relation.ReflTransGen Step x y) :
    y.Left ∧ y.accepted = x.accepted ∧ y.received = x.received := by
  induction hreached with
  | refl => exact ⟨h, rfl, rfl⟩
  | tail _ hstep ih =>
    obtain ⟨hleft, haccepted, hreceived⟩ := ih
    obtain ⟨hleft', haccepted', hreceived'⟩ := hleft.step hstep
    exact ⟨hleft', haccepted'.trans haccepted, hreceived'.trans hreceived⟩

/-- What is accepted stays accepted, and all that is accepted was so before the client left. -/
theorem accepted_of_step (hstep : Step x y) :
    x.accepted ≤ y.accepted ∧
      (x.connected = false → y.connected = false ∧ y.accepted = x.accepted) := by
  cases hstep with
  | handler =>
    obtain ⟨hle, hleft⟩ := x.accepted_handlerTurn
    exact ⟨hle, fun h => ⟨x.handlerTurn_frame.2.2.1.trans h, hleft h⟩⟩
  | receive =>
    rw [x.receive_frame]
    exact ⟨Nat.le_refl _, fun h => ⟨h, rfl⟩⟩
  | leave => exact ⟨Nat.le_refl _, fun _ => ⟨rfl, rfl⟩⟩

/-! ### Streams -/

/-- The stage after an item is about a stream if the emitter is. -/
theorem streams_afterItem {emitter : Emitter} (h : emitter.stream = true) (x : Exchange)
    (last : Bool) (items : List Item) : (x.afterItem last emitter items).Streams := by
  cases last
  · exact h
  · trivial

/-- After an item of a stream the handler does not take another one before it has sent a chunk. -/
theorem afterTaking_cases {emitter : Emitter} (h : emitter.stream = true) (x : Exchange)
    (item : Item) (items : List Item) :
    (∃ result, x.afterTaking emitter item items = .closing result) ∨
      ∃ chunk last next, x.afterTaking emitter item items = .sending chunk last next items ∧
        next.stream = true := by
  rw [afterTaking]
  cases hreceive : emitter.receive item with
  | error failure => exact .inl ⟨_, rfl⟩
  | ok next =>
    obtain ⟨chunk?, next, last⟩ := next
    cases chunk? with
    | none =>
      obtain rfl := Emitter.last_of_receive_none h hreceive
      exact .inl ⟨_, rfl⟩
    | some chunk =>
      exact .inr ⟨chunk, last, next, rfl, (Emitter.stream_of_receive hreceive).trans h⟩

/-- **Step**: an exchange that is about a stream stays so. -/
theorem streams_step (h : x.stage.Streams) (hstep : Step x y) : y.stage.Streams := by
  cases hstep with
  | handler =>
    unfold handlerTurn
    split
    case h_1 => trivial
    case h_2 emitter item items hstage =>
      rw [hstage] at h
      rcases x.afterTaking_cases h item items with ⟨result, hnext⟩ | ⟨_, _, _, hnext, hstream⟩
      · simp only [hnext]
        trivial
      · simp only [hnext]
        exact hstream
    case h_3 chunk last emitter items hstage =>
      rw [hstage] at h
      split
      · exact streams_afterItem h x last items
      · trivial
    case h_4 => trivial
    case h_5 => exact h
  | receive =>
    rw [x.receive_frame]
    exact h
  | leave => exact h

/-- **Run**: an exchange that is about a stream stays so. -/
theorem streams_of_reached (h : x.stage.Streams) (hreached : Relation.ReflTransGen Step x y) :
    y.stage.Streams := by
  induction hreached with
  | refl => exact h
  | tail _ hstep ih => exact streams_step ih hstep

/-- **Step**: a turn of the handler of a stream whose client has left. -/
theorem handlerTurn_of_left (h : x.connected = false) (hstream : x.stage.Streams) :
    x.handlerTurn.pulled + x.handlerTurn.stage.pullsUnheard ≤ x.pulled + x.stage.pullsUnheard ∧
      x.handlerTurn.stage.turnsUnheard ≤ x.stage.turnsUnheard - 1 := by
  unfold handlerTurn
  split
  case h_1 emitter hstage =>
    rw [hstage]
    exact ⟨Nat.le_succ _, Nat.le_succ 1⟩
  case h_2 emitter item items hstage =>
    rw [hstage] at hstream ⊢
    rcases x.afterTaking_cases hstream item items with ⟨_, hnext⟩ | ⟨_, _, _, hnext, -⟩
    · simp only [hnext]
      exact ⟨Nat.le_refl _, Nat.le_succ 1⟩
    · simp only [hnext]
      exact ⟨Nat.le_refl _, Nat.le_refl 2⟩
  case h_3 chunk last emitter items hstage =>
    rw [hstage, if_neg (Bool.eq_false_iff.mp h)]
    exact ⟨Nat.le_refl _, Nat.le_refl 1⟩
  case h_4 result hstage =>
    rw [hstage, emit, if_neg (Bool.eq_false_iff.mp h)]
    exact ⟨Nat.le_refl _, Nat.le_refl 0⟩
  case h_5 result hstage =>
    rw [hstage]
    exact ⟨Nat.le_refl _, Nat.le_refl 0⟩

/-- **Run**: of a stream whose client has left, at most one more item is taken, and none after
that. -/
theorem pulled_le_of_left (h : x.Left) (hstream : x.stage.Streams)
    (hreached : Relation.ReflTransGen Step x y) :
    y.pulled + y.stage.pullsUnheard ≤ x.pulled + x.stage.pullsUnheard := by
  induction hreached with
  | refl => exact Nat.le_refl _
  | @tail y _ hbefore hstep ih =>
    refine Nat.le_trans ?_ ih
    cases hstep with
    | handler =>
      exact (handlerTurn_of_left (h.of_reached hbefore).1.disconnected
        (streams_of_reached hstream hbefore)).1
    | receive => rw [y.receive_frame]
    | leave => exact Nat.le_refl _

/-- Where the handler has no more turns it is done. -/
theorem isClosed_of_turnsUnheard (h : x.stage.turnsUnheard = 0) : x.isClosed = true := by
  rw [isClosed]
  cases hstage : x.stage with
  | closed result => rfl
  | pulling emitter items =>
    rw [hstage] at h
    exact absurd h (Nat.succ_ne_zero _)
  | sending chunk last emitter items =>
    rw [hstage] at h
    exact absurd h (Nat.succ_ne_zero _)
  | closing result =>
    rw [hstage] at h
    exact absurd h (Nat.succ_ne_zero _)

/-- The handler of a stream whose client has left is at its end after three turns. -/
theorem isClosed_of_left (h : x.Left) (hstream : x.stage.Streams) :
    (handlerTurn^[3] x).isClosed = true := by
  have hturn {z : Exchange} (hz : z.Left) (hstream : z.stage.Streams) :
      z.handlerTurn.Left ∧ z.handlerTurn.stage.Streams ∧
        z.handlerTurn.stage.turnsUnheard ≤ z.stage.turnsUnheard - 1 :=
    ⟨(hz.step (.handler z)).1, streams_step hstream (.handler z),
      (handlerTurn_of_left hz.disconnected hstream).2⟩
  obtain ⟨hleft₁, hstream₁, hlt₁⟩ := hturn h hstream
  obtain ⟨hleft₂, hstream₂, hlt₂⟩ := hturn hleft₁ hstream₁
  obtain ⟨-, -, hlt₃⟩ := hturn hleft₂ hstream₂
  have hstart : x.stage.turnsUnheard ≤ 3 := x.stage.turnsUnheard_le
  have hend : x.handlerTurn.handlerTurn.handlerTurn.stage.turnsUnheard = 0 := by omega
  exact isClosed_of_turnsUnheard hend

end Exchange

/-! ## The run behind an exchange -/

/-- What came of a relay is what the handler has done before this stage, and still does. -/
def Stage.Mirrors (ctx : Context) (requestId : String) (now : Int64) (relayed : Relay)
    (pulled accepted : Nat) : Stage → Prop
  | .pulling emitter items =>
    ∃ sent, sent.length = accepted ∧ relayed = (relay ctx emitter sent items).after pulled
  | .sending chunk last emitter items =>
    ∃ sent, sent.length = accepted ∧
      relayed = (relayChunk ctx sent (some chunk) last emitter items).after pulled
  | .closing result | .closed result =>
    relayed.bodies requestId now = result ∧ relayed.pulled = pulled ∧
      relayed.sent.length = accepted

namespace Exchange

variable {x y start : Exchange} {ctx : Context} {relayed : Relay} {emitter : Emitter}
  {items : List Item} {sent : List Intermediate} {pulled accepted : Nat}

/-- The handler has done, and still does, what came of a relay. -/
def Mirrors (ctx : Context) (relayed : Relay) (x : Exchange) : Prop :=
  x.stage.Mirrors ctx x.requestId x.now relayed x.pulled x.accepted

theorem mirrors_afterItem {last : Bool} (hlen : sent.length = accepted)
    (h : relayed = (relayAfter ctx sent last emitter items).after pulled) (x : Exchange) :
    (x.afterItem last emitter items).Mirrors ctx x.requestId x.now relayed pulled accepted := by
  subst h
  cases last with
  | true => exact ⟨rfl, Nat.zero_add pulled, hlen⟩
  | false => exact ⟨sent, hlen, rfl⟩

theorem mirrors_afterTaking {item : Item} (hlen : sent.length = accepted)
    (h : relayed = (relay ctx emitter sent (item :: items)).after pulled) (x : Exchange) :
    (x.afterTaking emitter item items).Mirrors ctx x.requestId x.now relayed (pulled + 1)
      accepted := by
  rw [afterTaking]
  cases hreceive : emitter.receive item with
  | error failure =>
    rw [relay_cons_of_error hreceive] at h
    subst h
    exact ⟨rfl, Nat.add_comm 1 pulled, hlen⟩
  | ok next =>
    obtain ⟨chunk?, next, last⟩ := next
    rw [relay_cons_of_receive hreceive, Relay.after_after, Nat.add_comm 1 pulled] at h
    cases chunk? with
    | none => exact mirrors_afterItem hlen h x
    | some chunk => exact ⟨sent, hlen, h⟩

/-- A turn is about the same request. -/
theorem request_of_step (h : Step x y) : y.requestId = x.requestId ∧ y.now = x.now := by
  cases h with
  | handler => exact ⟨x.handlerTurn_frame.1, x.handlerTurn_frame.2.1⟩
  | receive =>
    rw [x.receive_frame]
    exact ⟨rfl, rfl⟩
  | leave => exact ⟨rfl, rfl⟩

section

variable {count : Nat} (hsink : ctx.sink = .limited count)

include hsink

/-- **Step**: the handler goes on like a relay into a sink that takes as many chunks as the queue
takes until the client leaves. -/
theorem Mirrors.step {others : List String} (hids : ctx.requestIds = x.requestId :: others)
    (h : x.Mirrors ctx relayed) (hstep : Step x y) (hle : y.accepted ≤ count)
    (hleft : y.connected = false → y.accepted = count) : y.Mirrors ctx relayed := by
  cases hstep with
  | handler =>
    unfold handlerTurn at *
    split
    case h_1 emitter hstage =>
      rw [Mirrors, hstage] at h
      obtain ⟨sent, hlen, hrelayed⟩ := h
      -- without items a relay is over, as after a last one
      have hlast : relayed = (relayAfter ctx sent true emitter []).after x.pulled := hrelayed
      exact mirrors_afterItem hlen hlast x
    case h_2 emitter item items hstage =>
      rw [Mirrors, hstage] at h
      obtain ⟨sent, hlen, hrelayed⟩ := h
      exact mirrors_afterTaking hlen hrelayed x
    case h_3 chunk last emitter items hstage =>
      rw [Mirrors, hstage] at h
      obtain ⟨sent, hlen, hrelayed⟩ := h
      simp only [hstage] at hle hleft
      split
      · rename_i hconnected
        rw [if_pos hconnected] at hle
        have hroom : sent.length < count := by
          rw [hlen]
          exact hle
        rw [relayChunk_of_lt hsink hids chunk last emitter hroom] at hrelayed
        have hlen' : (sent ++ [chunk.response x.requestId]).length = x.accepted + 1 := by
          rw [List.length_append, hlen]
          rfl
        rw [emit, if_pos hconnected]
        exact mirrors_afterItem hlen' hrelayed x
      · rename_i hconnected
        rw [if_neg hconnected] at hleft
        have hfull : count ≤ sent.length := by
          rw [hlen, ← hleft (Bool.eq_false_iff.mpr hconnected)]
        rw [relayChunk_of_le hsink hids chunk last emitter hfull] at hrelayed
        subst hrelayed
        exact ⟨rfl, Nat.zero_add _, hlen⟩
    case h_4 result hstage =>
      rw [Mirrors, hstage] at h
      rw [emit]
      split <;> exact h
    case h_5 => exact h
  | receive =>
    rw [x.receive_frame]
    exact h
  | leave => exact h

/-- **Run**: the handler goes on like such a relay, whatever the order of the turns. -/
theorem Mirrors.of_reached {others : List String}
    (hids : ctx.requestIds = start.requestId :: others) (h : start.Mirrors ctx relayed)
    (hreached : Relation.ReflTransGen Step start x) (hle : x.accepted ≤ count)
    (hleft : x.connected = false → x.accepted = count) :
    x.requestId = start.requestId ∧ x.now = start.now ∧ x.Mirrors ctx relayed := by
  induction hreached with
  | refl => exact ⟨rfl, rfl, h⟩
  | @tail y _ _ hstep ih =>
    -- what the queue has taken in the end bounds what it has taken before
    obtain ⟨hmono, hsame⟩ := accepted_of_step hstep
    obtain ⟨hid, hnow, hmirrors⟩ := ih (Nat.le_trans hmono hle) fun hgone =>
      (hsame hgone).2.symm.trans (hleft (hsame hgone).1)
    obtain ⟨hid', hnow'⟩ := request_of_step hstep
    have hids' : ctx.requestIds = y.requestId :: others := by rw [hids, hid]
    exact ⟨hid'.trans hid, hnow'.trans hnow, hmirrors.step hsink hids' hstep hle hleft⟩

end

/-- An exchange begins like the relay behind a run. -/
theorem exists_mirrors_ofBatch (handler : Handler) (batch : List RequestItem) (ctx : Context)
    {ctx' : Context} {requestId : String} {others : List String}
    (hids : ctx'.requestIds = requestId :: others) (now : Int64)
    (elapsed : Number.Binary Number.binary64) :
    ∃ relayed, (ofBatch handler batch ctx requestId now).Mirrors ctx' relayed ∧
      (handler.run batch ctx' now elapsed).Relays requestId now relayed := by
  have hsame := result_preprocess handler.adapters batch ctx ctx'
  rcases preprocess_cases handler.adapters batch ctx' with ⟨e, he⟩ | ⟨request, hok⟩
  · -- the batch is rejected
    refine ⟨{ pulled := 0, sent := [], result := .error e }, ?_, ?_⟩
    · simp only [Mirrors, ofBatch, hsame, he]
      exact ⟨rfl, rfl, rfl⟩
    · simp only [Handler.run, handle, he]
      exact ⟨rfl, rfl, rfl, rfl⟩
  · -- the engine is asked
    obtain ⟨hresult, hpulls, hsent⟩ :
        (handle handler.engine handler.calls handler.adapters batch ctx' now elapsed).result =
            ((handler.engine handler.calls (request.call requestId)).relayed ctx'
              request.stream).bodies requestId now ∧ _ ∧ _ := handle_of_call now elapsed hok hids
    refine ⟨_, ?_, hresult, by rw [Handler.run, hpulls]; rfl, hsent,
      refused_handle_of_call now elapsed hok hids⟩
    simp only [Mirrors, ofBatch, hsame, hok]
    cases handler.engine handler.calls (request.call requestId) with
    | refused e => exact ⟨rfl, rfl, rfl⟩
    | stream items => exact ⟨[], rfl, rfl⟩

end Exchange

/-! ## What a client has read -/

namespace Reading

/-- The frames that a client has read. -/
def frames : Reading → List String
  | .waiting => []
  | .reading frames => frames
  | .over _ frames _ => frames

/-- What is heard adds frames. -/
theorem frames_hear (r : Reading) (emission? : Option Emission) :
    r.frames <+: (r.hear emission?).frames := by
  rcases r with _ | frames | ⟨status, frames, ending⟩
  · exact List.nil_prefix
  · rcases emission? with _ | text | e
    · exact List.prefix_rfl
    · exact List.prefix_append frames _
    · exact List.prefix_rfl
  · exact List.prefix_rfl

theorem frames_hearAll (r : Reading) (emissions : List Emission) :
    r.frames <+: (r.hearAll emissions).frames := by
  induction emissions generalizing r with
  | nil => exact List.prefix_rfl
  | cons first rest ih => exact (r.frames_hear (some first)).trans (ih _)

theorem hearAll_append (r : Reading) (first rest : List Emission) :
    r.hearAll (first ++ rest) = (r.hearAll first).hearAll rest := by
  induction first generalizing r with
  | nil => rfl
  | cons emission first ih => exact ih _

/-- Whoever hears the first emissions reads the first frames of the response. -/
theorem frames_isPrefix {first all : List Emission} (h : first <+: all) :
    (hearAll .waiting first).frames <+: (Emission.response all).frames := by
  obtain ⟨rest, rfl⟩ := h
  have hread : (((hearAll .waiting first).hearAll rest).hear none).frames =
      (Emission.response (first ++ rest)).frames := by
    rw [← hearAll_append, hear_none_hearAll]
    rfl
  have hframes := (frames_hearAll (hearAll .waiting first) rest).trans (frames_hear _ none)
  rw [hread] at hframes
  exact hframes

end Reading

/-! ## Predictions whose client leaves -/

variable (server : Server) (request : Request) (requestId : String) (now : Int64)
  (elapsed : Number.Binary Number.binary64)

/-- The context of a request whose client leaves after so many chunks are sent. -/
def contextUpTo (count : Nat) : Context :=
  { requestIds := [requestId], headers := [itemHeaders request], sink := .limited count }

/-- The run of the handler for such a request. -/
def Server.handledUpTo (count : Nat) : Run (List String) :=
  server.handler.run [.ofBody request.body] (contextUpTo request requestId count) now elapsed

/-- The request is for a stream, if it is accepted. -/
def Server.Streams : Prop :=
  ∀ completion, (preprocess server.handler.adapters [.ofBody request.body]
    { requestIds := [requestId], headers := [itemHeaders request] }).result = .ok [completion] →
      completion.stream = true

variable {server request requestId now}

theorem Server.streams_of_isStream (h : server.isStream request requestId = true) :
    server.Streams request requestId := by
  obtain ⟨completion, hok, hasked⟩ := exists_of_isStream h
  intro other hother
  obtain rfl : completion = other := (List.cons.inj (Except.ok.inj (hok.symm.trans hother))).1
  exact hasked

/-- The exchange that such a request opens is about a stream. -/
theorem Server.Streams.stage_exchange (h : server.Streams request requestId) :
    (server.exchange request requestId now).stage.Streams := by
  rcases server.stage_exchange request requestId now with
    ⟨e, hstage⟩ | ⟨completion, items, hok, hstage⟩
  · rw [hstage]
    trivial
  · rw [hstage]
    exact h completion hok

/-- The frames that a client has read are the first of those that it reads if it stays. -/
theorem frames_received_isPrefix {x : Exchange}
    (hreached : Relation.ReflTransGen Exchange.Step (server.exchange request requestId now) x) :
    (Reading.hearAll .waiting x.received).frames <+:
      (server.predict request .stays requestId now elapsed).response.frames := by
  have hreceived := Exchange.received_isPrefix_of_reached hreached rfl
  rw [whole_of_reached_exchange server request requestId now elapsed .refl rfl] at hreceived
  rw [server.response_predict request requestId now elapsed]
  exact Reading.frames_isPrefix hreceived

/-- If nothing more is taken, the handler has done, and still does, what it does with a sink that
takes as many chunks as were taken. -/
theorem exists_mirrors {x : Exchange}
    (hreached : Relation.ReflTransGen Exchange.Step (server.exchange request requestId now) x) :
    ∃ relayed, x.stage.Mirrors (contextUpTo request requestId x.accepted) requestId now relayed
        x.pulled x.accepted ∧
      (server.handledUpTo request requestId now elapsed x.accepted).Relays requestId now
        relayed := by
  have hids : (contextUpTo request requestId x.accepted).requestIds = [requestId] := rfl
  obtain ⟨relayed, hstart, hrun⟩ := Exchange.exists_mirrors_ofBatch server.handler
    [.ofBody request.body] { requestIds := [requestId], headers := [itemHeaders request] } hids now
    elapsed
  obtain ⟨hid, hnow, hmirrors⟩ := hstart.of_reached rfl hids hreached (Nat.le_refl _) fun _ => rfl
  rw [Exchange.Mirrors, hid, hnow] at hmirrors
  exact ⟨relayed, hmirrors, hrun⟩

/-- **Leaving only cuts an exchange short.** Let the handler of a stream tell and the client receive,
in any order, and the client leave at any moment, or not at all. The frames that it has read are
always the first of those that it reads if it stays. Once it has left, nothing more is taken or
received, and the handler takes at most one more item, is not about to take another one then, and is
at its end after three turns. What it has done then is what it does with a sink that takes as many
chunks as were taken; and if a chunk is refused, the run is cancelled for the request, is not
measured, and tells no failure. -/
theorem departure_cuts_short (hstream : server.Streams request requestId) :
    (server.Serves request → (server.answer request .stays requestId now elapsed).response =
      (server.predict request .stays requestId now elapsed).response) ∧
    ∀ x, Relation.ReflTransGen Exchange.Step (server.exchange request requestId now) x →
      (Reading.hearAll .waiting x.received).frames <+:
        (server.predict request .stays requestId now elapsed).response.frames ∧
      (x.connected = false →
        (∀ y, Relation.ReflTransGen Exchange.Step x y →
          y.accepted = x.accepted ∧ y.received = x.received ∧ y.queue = [] ∧
          y.pulled ≤ x.pulled + 1 ∧
          (y.pulled = x.pulled + 1 → ∀ emitter items, y.stage ≠ .pulling emitter items) ∧
          (Exchange.handlerTurn^[3] y).isClosed = true) ∧
        let run := server.handledUpTo request requestId now elapsed x.accepted
        (∀ result, x.stage = .closed result → run.result = result ∧
          (run.pulls.map (·.count)).sum = x.pulled ∧ run.sent.length = x.accepted) ∧
        (∀ chunk, x.stage.chunk? = some chunk →
          run.refused = some (chunk.response requestId)) ∧
        (run.refused ≠ none → run.result = .error (.cancelled requestId) ∧ run.metrics = [] ∧
          Emission.ofResult run.result = [])) := by
  refine ⟨fun hserves => ?_, fun x hreached =>
    ⟨frames_received_isPrefix elapsed hreached, fun hgone => ⟨fun y hlater => ?_, ?_⟩⟩⟩
  · rw [Server.answer_of_serves requestId now elapsed hserves]
  · have hleft : x.Left := ⟨hgone, Exchange.queue_of_reached hreached rfl hgone⟩
    obtain ⟨hleft', haccepted, hreceived⟩ := hleft.of_reached hlater
    have hstage := Exchange.streams_of_reached hstream.stage_exchange hreached
    have hpulled := Exchange.pulled_le_of_left hleft hstage hlater
    have hone : x.stage.pullsUnheard ≤ 1 := x.stage.pullsUnheard_le
    refine ⟨haccepted, hreceived, hleft'.lost, by omega, ?_,
      Exchange.isClosed_of_left hleft' (Exchange.streams_of_reached hstage hlater)⟩
    intro hmore emitter items hstage
    rw [hstage, Stage.pullsUnheard] at hpulled
    omega
  · intro run
    obtain ⟨relayed, hmirrors, hrun⟩ := exists_mirrors elapsed hreached
    refine ⟨fun result hstage => ?_, fun chunk hchunk => ?_, fun hrefused => ?_⟩
    · rw [hstage] at hmirrors
      obtain ⟨hresult, hpulled, hsent⟩ := hmirrors
      exact ⟨hrun.result.trans hresult, hrun.pulls.trans hpulled,
        (congrArg List.length hrun.sent).trans hsent⟩
    · obtain ⟨last, emitter, items, hstage⟩ := Stage.exists_of_chunk? hchunk
      rw [hstage] at hmirrors
      obtain ⟨sent, hlen, hrelayed⟩ := hmirrors
      rw [relayChunk_of_le rfl rfl chunk last emitter (Nat.le_of_eq hlen.symm)] at hrelayed
      exact hrun.refused.trans (congrArg Relay.refused hrelayed)
    · obtain ⟨hresult, hmetrics⟩ := handle_of_refused rfl rfl now elapsed hrefused
      refine ⟨hresult, hmetrics, ?_⟩
      rw [show run.result = _ from hresult]
      rfl

/-- A client that reads one chunk and leaves when the next item is taken: its chunk is refused. -/
theorem departure_cuts_short_refused :
    let item (text : String) : Item :=
      .ok { requestId := "r", prompt := "p", outputs := [{ text, tokenIds := [1] }] }
    let handler : Handler :=
      { engine := fun _ _ => .stream [item "a", item "ab", item "abc"], args := .ofModel "m",
        adapters := ⟨"/models", [], []⟩ }
    let request : Request :=
      { method := "POST", target := "/predictions/m",
        body := (Json.object [("prompt", .string "p"), ("stream", .boolean true)]).text.toUTF8 }
    let x := (Server.exchange ⟨"m", handler⟩ request "r"
      0).handlerTurn.handlerTurn.receive.handlerTurn.leave
    let run := Server.handledUpTo ⟨"m", handler⟩ request "r" 0 (.infinite false) x.accepted
    Server.Streams ⟨"m", handler⟩ request "r" ∧ x.pulled = 2 ∧ x.accepted = 1 ∧
      (∀ y, Relation.ReflTransGen Exchange.Step x y → y.pulled ≤ 3 ∧ y.queue = []) ∧
      run.result = .error (.cancelled "r") ∧ run.metrics = [] := by
  intro item handler request x run
  have hpulled : x.pulled = 2 := by decide +kernel +revert
  have haccepted : x.accepted = 1 := by decide +kernel +revert
  have hsending : x.stage.chunk? = some ⟨"b", some 1⟩ := by decide +kernel +revert
  have hstream : Server.Streams ⟨"m", handler⟩ request "r" :=
    Server.streams_of_isStream (by decide +kernel +revert)
  have hreached : Relation.ReflTransGen Exchange.Step
      (Server.exchange ⟨"m", handler⟩ request "r" 0) x :=
    .tail (.tail (.tail (.tail (.single (.handler _)) (.handler _)) (.receive _)) (.handler _))
      (.leave _)
  obtain ⟨hlater, -, hrefused, hcancelled⟩ :=
    ((departure_cuts_short (.infinite false) hstream).2 x hreached).2 rfl
  have hchunk : run.refused = some (StreamChunk.response ⟨"b", some 1⟩ "r") := hrefused _ hsending
  obtain ⟨hresult, hmetrics, -⟩ := hcancelled (by rw [hchunk]; exact Option.some_ne_none _)
  refine ⟨hstream, hpulled, haccepted, fun y hy => ?_, hresult, hmetrics⟩
  obtain ⟨-, -, hnone, hone, -⟩ := hlater y hy
  rw [hpulled] at hone
  exact ⟨hone, hnone⟩

end Http

end CompletionService
