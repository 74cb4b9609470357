import CompletionService.Proofs.AdapterIds
import CompletionService.Proofs.Records
import CompletionService.Request.Completion

/-!
# The grammar of requests

Which objects are requests, and what they say.

* `WellFormed` — the members that a request has or may have, each with a value of its kind. Whatever
  is not well-formed is a bad request (`prepare_of_not_wellFormed`).
* `AdapterTable.Offers` — the names that a well-formed request may give for its adapter. Any other
  name fails as a precondition (`AdapterTable.resolve_of_not_offers`).
* `Translates` — what a request in the terms of the engine has to do with its object.
* `prepare_follows_grammar` — an object **is prepared exactly if it is well-formed and its adapter
  is offered**, to what it says; the kind of an error tells which of the two it is; and no other
  member counts.
-/

namespace CompletionService

/-! ## Adapters that can be asked for -/

namespace AdapterTable

variable {t : AdapterTable} {name path : String}

/-- The name is that of an adapter that is declared with a path, or the empty one. -/
def Offers (t : AdapterTable) (name : String) : Prop :=
  name = "" ∨ ∃ path, t.paths.lookup name = some path ∧ path ≠ ""

theorem path?_eq_some_iff : t.path? name = some path ↔
    t.paths.lookup name = some path ∧ path ≠ "" := by
  simp [path?, Option.filter_eq_some_iff]

/-- No adapter is what the empty name selects. -/
theorem resolve_empty (t : AdapterTable) : t.resolve "" = (.ok none, t) := rfl

/-- What is not offered is missing. -/
theorem resolve_of_not_offers (h : ¬ t.Offers name) :
    t.resolve name = (.error (.precondition (name ++ " misses adapter path")), t) := by
  obtain ⟨hname, hpath⟩ := not_or.mp h
  have hnone : t.path? name = none := by
    refine Option.eq_none_iff_forall_ne_some.mpr fun path heq => hpath ?_
    exact ⟨path, path?_eq_some_iff.mp heq⟩
  rw [resolve, if_neg hname, hnone]

/-- What is offered is selected, under its name and with its path. -/
theorem exists_resolve_of_offers (h : t.Offers name) : ∃ lora?, (t.resolve name).1 = .ok lora? ∧
    (lora?.isSome ↔ name ≠ "") ∧ ∀ lora ∈ lora?, lora.name = name ∧
      ∃ path, t.paths.lookup name = some path ∧ lora.path = Path.join t.modelDir path := by
  by_cases hname : name = ""
  · subst hname
    exact ⟨none, congrArg Prod.fst t.resolve_empty, by simp, by simp⟩
  · obtain ⟨path, hpath⟩ := h.resolve_left hname
    refine ⟨_, congrArg Prod.fst (resolve_of_path hname (path?_eq_some_iff.mpr hpath)), ?_, ?_⟩
    · simp [hname]
    · rintro lora ⟨⟩
      exact ⟨rfl, path, hpath.1, rfl⟩

end AdapterTable

/-! ## Bad requests -/

/-- If it fails, the request is a bad one. -/
def OnlyBadRequests {α : Type} (result : Except ServiceError α) : Prop :=
  ∀ e, result = .error e → ∃ reason, e = .badRequest reason

namespace OnlyBadRequests

theorem ok {α : Type} (a : α) : OnlyBadRequests (.ok a) := fun _ h => nomatch h

theorem error {α : Type} (reason : String) :
    OnlyBadRequests (.error (.badRequest reason) : Except ServiceError α) :=
  fun _ h => ⟨reason, (Except.error.inj h).symm⟩

/-- One step after the other. -/
theorem bind {α β : Type} {result : Except ServiceError α} {next : α → Except ServiceError β}
    (h : OnlyBadRequests result) (hnext : ∀ a, OnlyBadRequests (next a)) :
    OnlyBadRequests (result >>= next) := by
  intro e he
  rcases of_bind_eq_error he with hresult | ⟨a, -, hlater⟩
  · exact h e hresult
  · exact hnext a e hlater

end OnlyBadRequests

namespace CompletionRequest

/-! ## The grammar -/

/-- The object is a request: it has a prompt; its other members are values of their kinds, or
`null`, if they are there. -/
structure WellFormed (request : Members) : Prop where
  prompt : ∃ prompt, request.get? "prompt" = some (.string prompt)
  stream : ∀ j ∈ request.get? "stream", j = .null ∨ ∃ stream, j = .boolean stream
  params : Record.Accepts SamplingParams request
  adapter : ∀ j ∈ request.get? "lora_adapter", j = .null ∨ ∃ name, j = .string name

/-- The adapter that the object names, if it names any, is offered. -/
def AdapterOffered (request : Members) (adapters : AdapterTable) : Prop :=
  ∀ name, request.get? "lora_adapter" = some (.string name) → adapters.Offers name

/-- The request says what the object does. -/
structure Translates (request : Members) (adapters : AdapterTable)
    (completion : CompletionRequest) : Prop where
  prompt : request.get? "prompt" = some (.string completion.prompt)
  stream : completion.stream = true ↔ request.get? "stream" = some (.boolean true)
  params : Record.Overwritten SamplingParams.default request completion.params
  adapted : completion.lora.isSome ↔
    ∃ name, name ≠ "" ∧ request.get? "lora_adapter" = some (.string name)
  adapter : ∀ lora ∈ completion.lora, request.get? "lora_adapter" = some (.string lora.name) ∧
    ∃ path, adapters.paths.lookup lora.name = some path ∧
      lora.path = Path.join adapters.modelDir path

/-- The members that a request may have. -/
def keys : List String :=
  ["prompt", "stream", "lora_adapter"] ++ SamplingParams.fields.map (·.name)

/-! ## Checks -/

section

variable {request : Members} {prompt name : String} {stream : Bool} {params : SamplingParams}

theorem prompt?_eq_ok_iff :
    prompt? request = .ok prompt ↔ request.get? "prompt" = some (.string prompt) := by
  cases hget : request.get? "prompt" with
  | none => simp [prompt?, hget]
  | some j => cases j <;> simp [prompt?, hget]

theorem exists_stream?_iff : (∃ stream, stream? request = .ok stream) ↔
    ∀ j ∈ request.get? "stream", j = .null ∨ ∃ stream, j = .boolean stream := by
  cases hget : request.get? "stream" with
  | none => simp [stream?, hget]
  | some j => cases j <;> simp [stream?, hget]

/-- Only `true` asks for a stream. -/
theorem eq_true_iff_of_stream? (h : stream? request = .ok stream) :
    stream = true ↔ request.get? "stream" = some (.boolean true) := by
  unfold stream? at h
  split at h
  all_goals simp_all

theorem params?_eq_ok_iff : params? request = .ok params ↔
    Record.Overwritten SamplingParams.default request params := by
  rw [← Record.merge_eq_ok_iff_overwritten SamplingParams.isFinite_default, params?]
  cases merge SamplingParams.default request <;> simp

theorem exists_params?_iff : (∃ params, params? request = .ok params) ↔
    Record.Accepts SamplingParams request := by
  have hfinite := SamplingParams.isFinite_default
  simp only [params?_eq_ok_iff, ← Record.merge_eq_ok_iff_overwritten hfinite,
    Record.exists_merge_iff_accepts hfinite]

theorem exists_adapter?_iff : (∃ name, adapter? request = .ok name) ↔
    ∀ j ∈ request.get? "lora_adapter", j = .null ∨ ∃ name, j = .string name := by
  cases hget : request.get? "lora_adapter" with
  | none => simp [adapter?, hget]
  | some j => cases j <;> simp [adapter?, hget]

/-- The object names the adapter, or no adapter if the name is empty. -/
theorem names_of_adapter? (h : adapter? request = .ok name) :
    request.get? "lora_adapter" = some (.string name) ∨
      name = "" ∧ ∀ given, request.get? "lora_adapter" ≠ some (.string given) := by
  unfold adapter? at h
  split at h
  all_goals simp_all

theorem onlyBadRequests_prompt? (request : Members) : OnlyBadRequests (prompt? request) := by
  unfold prompt?
  split
  · exact .ok _
  · exact .error _

theorem onlyBadRequests_stream? (request : Members) : OnlyBadRequests (stream? request) := by
  unfold stream?
  split
  case h_4 => exact .error _
  all_goals exact .ok _

theorem onlyBadRequests_params? (request : Members) : OnlyBadRequests (params? request) := by
  unfold params?
  split
  · exact .ok _
  · exact .error _

theorem onlyBadRequests_adapter? (request : Members) : OnlyBadRequests (adapter? request) := by
  unfold adapter?
  split
  case h_4 => exact .error _
  all_goals exact .ok _

/-- The object passes the checks, with these fields. -/
structure Checked (request : Members) (prompt : String) (stream : Bool) (params : SamplingParams)
    (name : String) : Prop where
  prompt : prompt? request = .ok prompt
  stream : stream? request = .ok stream
  params : params? request = .ok params
  adapter : adapter? request = .ok name

/-- **The checks are those of the grammar.** -/
theorem wellFormed_iff : WellFormed request ↔
    ∃ prompt stream params name, Checked request prompt stream params name := by
  constructor
  · intro h
    obtain ⟨prompt, hprompt⟩ := h.prompt
    obtain ⟨stream, hstream⟩ := exists_stream?_iff.mpr h.stream
    obtain ⟨params, hparams⟩ := exists_params?_iff.mpr h.params
    obtain ⟨name, hname⟩ := exists_adapter?_iff.mpr h.adapter
    exact ⟨prompt, stream, params, name, prompt?_eq_ok_iff.mpr hprompt, hstream, hparams, hname⟩
  · rintro ⟨prompt, stream, params, name, h⟩
    constructor
    · exact ⟨prompt, prompt?_eq_ok_iff.mp h.prompt⟩
    · exact exists_stream?_iff.mp ⟨stream, h.stream⟩
    · exact exists_params?_iff.mp ⟨params, h.params⟩
    · exact exists_adapter?_iff.mp ⟨name, h.adapter⟩

end

/-! ## Preparing -/

namespace Checked

variable {request : Members} {adapters : AdapterTable} {prompt name : String} {stream : Bool}
  {params : SamplingParams} (h : Checked request prompt stream params name)
include h

/-- After the checks, the adapter decides. -/
theorem prepare_eq (adapters : AdapterTable) : prepare request adapters =
    ((adapters.resolve name).1.map fun lora => ⟨prompt, stream, params, lora⟩,
      (adapters.resolve name).2) := by
  simp only [prepare, h.prompt, h.stream, h.params, h.adapter, bind, Except.bind, pure, Except.pure]
  rcases adapters.resolve name with ⟨e | lora, after⟩ <;> rfl

/-- The name that is not empty is that in the object. -/
theorem named (hname : name ≠ "") : request.get? "lora_adapter" = some (.string name) :=
  (names_of_adapter? h.adapter).resolve_right fun hempty => hname hempty.1

/-- The object names an offered adapter if the name that was read is offered. -/
theorem adapterOffered_iff : AdapterOffered request adapters ↔ adapters.Offers name := by
  rcases names_of_adapter? h.adapter with hnamed | ⟨rfl, hnone⟩
  · constructor
    · intro hoffered
      exact hoffered name hnamed
    · intro hoffers given hgiven
      rw [hnamed] at hgiven
      obtain rfl := Json.string.inj (Option.some.inj hgiven)
      exact hoffers
  · exact iff_of_true (fun given hgiven => absurd hgiven (hnone given)) (.inl rfl)

/-- With an offered adapter, the fields are what the object says. -/
theorem exists_prepare_eq (hoffers : adapters.Offers name) :
    ∃ completion, (prepare request adapters).1 = .ok completion ∧
      Translates request adapters completion := by
  obtain ⟨lora?, hresolve, hsome, hlora⟩ := AdapterTable.exists_resolve_of_offers hoffers
  refine ⟨⟨prompt, stream, params, lora?⟩, by rw [h.prepare_eq, hresolve]; rfl, ?_⟩
  constructor
  · exact prompt?_eq_ok_iff.mp h.prompt
  · exact eq_true_iff_of_stream? h.stream
  · exact params?_eq_ok_iff.mp h.params
  · rw [hsome]
    rcases names_of_adapter? h.adapter with hnamed | ⟨rfl, hnone⟩
    · simp [hnamed]
    · simp [hnone]
  · intro lora hmem
    obtain ⟨rfl, path, hpath, hjoined⟩ := hlora lora hmem
    exact ⟨h.named (hsome.mp (Option.isSome_of_mem hmem)), path, hpath, hjoined⟩

/-- The name of an adapter that is not offered is in the error. -/
theorem prepare_of_not_offers (hmissing : ¬ adapters.Offers name) :
    request.get? "lora_adapter" = some (.string name) ∧ prepare request adapters =
      (.error (.precondition (name ++ " misses adapter path")), adapters) := by
  refine ⟨h.named fun hempty => hmissing (.inl hempty), ?_⟩
  rw [h.prepare_eq, AdapterTable.resolve_of_not_offers hmissing]
  rfl

end Checked

section

variable {request request' : Members} {adapters : AdapterTable}

/-- Without the checks, the request is a bad one, and the adapters stay as they are. -/
theorem prepare_of_not_wellFormed (h : ¬ WellFormed request) (adapters : AdapterTable) :
    ∃ reason, prepare request adapters = (.error (.badRequest reason), adapters) := by
  rw [wellFormed_iff] at h
  unfold prepare
  simp only
  split
  · rename_i e he
    have hbad := (onlyBadRequests_prompt? request).bind fun prompt =>
      (onlyBadRequests_stream? request).bind fun stream =>
        (onlyBadRequests_params? request).bind fun params =>
          (onlyBadRequests_adapter? request).bind fun name => .ok (prompt, stream, params, name)
    obtain ⟨reason, rfl⟩ := hbad e he
    exact ⟨reason, rfl⟩
  · rename_i prompt stream params name hok
    simp only [bind_eq_ok_iff, pure, Except.pure, Except.ok.injEq] at hok
    obtain ⟨_, hprompt, _, hstream, _, hparams, _, hadapter, -⟩ := hok
    exact absurd ⟨_, _, _, _, hprompt, hstream, hparams, hadapter⟩ h

/-- **The three ways to go**: the object is translated, or its adapter is missing, or it is a bad
request. Then nothing changes, and the error for an adapter has its name. -/
theorem prepare_cases (request : Members) (adapters : AdapterTable) :
    (WellFormed request ∧ AdapterOffered request adapters ∧
      ∃ completion, (prepare request adapters).1 = .ok completion ∧
        Translates request adapters completion) ∨
    (WellFormed request ∧ ¬ AdapterOffered request adapters ∧
      ∃ name, request.get? "lora_adapter" = some (.string name) ∧ prepare request adapters =
        (.error (.precondition (name ++ " misses adapter path")), adapters)) ∨
    (¬ WellFormed request ∧
      ∃ reason, prepare request adapters = (.error (.badRequest reason), adapters)) := by
  by_cases hformed : WellFormed request
  · obtain ⟨prompt, stream, params, name, hchecked⟩ := wellFormed_iff.mp hformed
    by_cases hoffers : adapters.Offers name
    · refine .inl ⟨hformed, hchecked.adapterOffered_iff.mpr hoffers, ?_⟩
      exact hchecked.exists_prepare_eq hoffers
    · refine .inr (.inl ⟨hformed, fun h => hoffers (hchecked.adapterOffered_iff.mp h), name, ?_⟩)
      exact hchecked.prepare_of_not_offers hoffers
  · exact .inr (.inr ⟨hformed, prepare_of_not_wellFormed hformed adapters⟩)

/-- The objects that are translated. -/
theorem exists_prepare_iff : (∃ completion, (prepare request adapters).1 = .ok completion) ↔
    WellFormed request ∧ AdapterOffered request adapters := by
  rcases prepare_cases request adapters with
    ⟨hformed, hoffered, completion, hok, -⟩ | ⟨hformed, hmissing, name, -, herror⟩ |
      ⟨hformed, reason, herror⟩
  · exact iff_of_true ⟨completion, hok⟩ ⟨hformed, hoffered⟩
  · rw [herror]
    exact iff_of_false (fun ⟨_, hok⟩ => nomatch hok) fun h => hmissing h.2
  · rw [herror]
    exact iff_of_false (fun ⟨_, hok⟩ => nomatch hok) fun h => hformed h.1

/-- They are translated to what they say. -/
theorem translates_of_prepare {completion : CompletionRequest}
    (h : (prepare request adapters).1 = .ok completion) :
    Translates request adapters completion := by
  rcases prepare_cases request adapters with
    ⟨-, -, other, hother, htranslates⟩ | ⟨-, -, name, -, herror⟩ | ⟨-, reason, herror⟩
  · obtain rfl := Except.ok.inj (hother.symm.trans h)
    exact htranslates
  · rw [herror] at h
    exact nomatch h
  · rw [herror] at h
    exact nomatch h

/-- The others add nothing, and the error says what is wrong with them. -/
theorem prepare_error_cases {e : ServiceError} (h : (prepare request adapters).1 = .error e) :
    (prepare request adapters).2 = adapters ∧
      ((WellFormed request ∧ ¬ AdapterOffered request adapters ∧
          ∃ name, e = .precondition (name ++ " misses adapter path")) ∨
        (¬ WellFormed request ∧ ∃ reason, e = .badRequest reason)) := by
  rcases prepare_cases request adapters with
    ⟨-, -, completion, hok, -⟩ | ⟨hformed, hmissing, name, -, herror⟩ | ⟨hformed, reason, herror⟩
  · exact nomatch hok.symm.trans h
  · rw [herror] at h ⊢
    exact ⟨rfl, .inl ⟨hformed, hmissing, name, (Except.error.inj h).symm⟩⟩
  · rw [herror] at h ⊢
    exact ⟨rfl, .inr ⟨hformed, reason, (Except.error.inj h).symm⟩⟩

/-- Only the members that a request may have count. -/
theorem prepare_congr (h : ∀ key ∈ keys, request.get? key = request'.get? key)
    (adapters : AdapterTable) : prepare request adapters = prepare request' adapters := by
  have hprompt : prompt? request = prompt? request' := by
    rw [prompt?, prompt?, h "prompt" (by simp [keys])]
  have hstream : stream? request = stream? request' := by
    rw [stream?, stream?, h "stream" (by simp [keys])]
  have hadapter : adapter? request = adapter? request' := by
    rw [adapter?, adapter?, h "lora_adapter" (by simp [keys])]
  have hparams : params? request = params? request' := by
    rw [params?, params?, Record.merge_congr SamplingParams.default fun field hmem => ?_]
    exact h field.name (List.mem_append_right _ (List.mem_map_of_mem hmem))
  rw [prepare, prepare, hprompt, hstream, hparams, hadapter]

/-- **An object is prepared exactly if it is well-formed and the adapter that it names is offered**,
to what it says. If it is not well-formed it is a bad request; if it is, all that can be wrong is
its adapter, which is a precondition. Members that no request has change nothing. -/
theorem prepare_follows_grammar (request : Members) (adapters : AdapterTable) :
    ((∃ completion, (prepare request adapters).1 = .ok completion) ↔
      WellFormed request ∧ AdapterOffered request adapters) ∧
    (∀ completion, (prepare request adapters).1 = .ok completion →
      Translates request adapters completion) ∧
    (∀ e, (prepare request adapters).1 = .error e →
      ((∃ reason, e = .precondition reason) ↔
        WellFormed request ∧ ¬ AdapterOffered request adapters) ∧
      ((∃ reason, e = .badRequest reason) ↔ ¬ WellFormed request)) ∧
    ∀ request' : Members, (∀ key ∈ keys, request.get? key = request'.get? key) →
      prepare request adapters = prepare request' adapters := by
  refine ⟨exists_prepare_iff, fun _ => translates_of_prepare, fun e he => ?_,
    fun _ h => prepare_congr h adapters⟩
  obtain ⟨-, ⟨hformed, hmissing, name, rfl⟩ | ⟨hformed, reason, rfl⟩⟩ := prepare_error_cases he
  · simp [hformed, hmissing]
  · simp [hformed]

end

end CompletionRequest

end CompletionService
