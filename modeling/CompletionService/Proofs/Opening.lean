import CompletionService.Deployment.Startup
import CompletionService.Proofs.Records

/-!
# Opening a handler

What follows from the section of a deployment, a view of the paths that exist and a way to load
engines.

* `HandlerConfig.LeadsTo` — the model: the one that is named, or else the one that lies somewhere.
  There is one exactly if the section says something of either kind (`exists_leadsTo_iff`).
* `HandlerConfig.ResolvesTo` — the engine arguments: the model, and for every other argument its
  override or its default. The member that names the model is no override, so it cannot be one of a
  wrong type. **What is resolved is what this says** (`engineArgs_eq_ok_iff`).
* `opening_resolves_once` — a handler is opened with these arguments: the engine is loaded with
  them once if there are any, and never otherwise.
-/

namespace CompletionService

/-- A path below a directory is not empty if it was not. -/
theorem Path.join_ne_empty {path : String} (directory : String) (h : path ≠ "") :
    Path.join directory path ≠ "" := by
  rw [join]
  split
  · exact h
  · split <;> simp [h]

namespace HandlerConfig

variable {holds : String → Bool} {modelDir model path : String} {config : HandlerConfig}
  {args : EngineArgs}

/-! ## The model -/

/-- The section names the model, by a text that is not empty. Any other value names none. -/
def Names (config : HandlerConfig) (model : String) : Prop :=
  config.engineConfig.get? "model" = some (.string model) ∧ model ≠ ""

/-- The section says where the model lies, by a path that is not empty. -/
def Locates (config : HandlerConfig) (path : String) : Prop :=
  config.modelPath = some path ∧ path ≠ ""

/-- The model that the section leads to. -/
inductive LeadsTo (holds : String → Bool) (modelDir : String) (config : HandlerConfig) :
    (model : String) → Prop
  /-- the model is named, wherever it lies -/
  | named {model : String} (hnames : config.Names model) : LeadsTo holds modelDir config model
  /-- it lies in the directory of models -/
  | found {path : String} (hunnamed : ∀ model, ¬ config.Names model) (hpath : config.Locates path)
      (hplace : holds (Path.join modelDir path) = true) :
      LeadsTo holds modelDir config (Path.join modelDir path)
  /-- it does not, so the path is passed on as it is written -/
  | passedOn {path : String} (hunnamed : ∀ model, ¬ config.Names model)
      (hpath : config.Locates path) (hplace : holds (Path.join modelDir path) = false) :
      LeadsTo holds modelDir config path

/-- No section leads to the empty model. -/
theorem LeadsTo.ne_empty (h : LeadsTo holds modelDir config model) : model ≠ "" := by
  cases h with
  | named hnames => exact hnames.2
  | found _ hpath _ => exact Path.join_ne_empty modelDir hpath.2
  | passedOn _ hpath _ => exact hpath.2

/-- The sections that lead to a model name one or say where it lies. -/
theorem exists_leadsTo_iff : (∃ model, LeadsTo holds modelDir config model) ↔
    (∃ model, config.Names model) ∨ ∃ path, config.Locates path := by
  constructor
  · rintro ⟨_, hnames | ⟨-, hpath, -⟩ | ⟨-, hpath, -⟩⟩
    · exact .inl ⟨_, hnames⟩
    · exact .inr ⟨_, hpath⟩
    · exact .inr ⟨_, hpath⟩
  · intro h
    by_cases hnamed : ∃ model, config.Names model
    · obtain ⟨model, hnames⟩ := hnamed
      exact ⟨model, .named hnames⟩
    · obtain ⟨path, hpath⟩ := h.resolve_left hnamed
      have hunnamed (model : String) : ¬ config.Names model := fun hnames => hnamed ⟨model, hnames⟩
      cases hplace : holds (Path.join modelDir path) with
      | true => exact ⟨_, .found hunnamed hpath hplace⟩
      | false => exact ⟨_, .passedOn hunnamed hpath hplace⟩

theorem namedModel?_eq_some_iff : config.namedModel? = some model ↔ config.Names model := by
  have hstring (j : Json) : j.string? = some model ↔ j = .string model := by
    cases j <;> simp [Json.string?]
  simp [namedModel?, Names, Option.filter_eq_some_iff, Option.bind_eq_some_iff, hstring]

theorem namedModel?_eq_none_iff : config.namedModel? = none ↔ ∀ model, ¬ config.Names model := by
  simp only [Option.eq_none_iff_forall_ne_some, Ne, namedModel?_eq_some_iff]

theorem pathToModel?_eq_some_iff : config.pathToModel? = some path ↔ config.Locates path := by
  simp [pathToModel?, Locates, Option.filter_eq_some_iff]

/-- The model that a section leads to is found. -/
theorem model_of_leadsTo (h : LeadsTo holds modelDir config model) :
    ∃ log, config.model holds modelDir = .ok (model, log) := by
  cases h with
  | named hnames =>
    rw [HandlerConfig.model, namedModel?_eq_some_iff.mpr hnames]
    exact ⟨_, rfl⟩
  | found hunnamed hpath hplace =>
    rw [HandlerConfig.model, namedModel?_eq_none_iff.mpr hunnamed,
      pathToModel?_eq_some_iff.mpr hpath]
    simp only [hplace, if_true]
    exact ⟨_, rfl⟩
  | passedOn hunnamed hpath hplace =>
    rw [HandlerConfig.model, namedModel?_eq_none_iff.mpr hunnamed,
      pathToModel?_eq_some_iff.mpr hpath]
    simp only [hplace, Bool.false_eq_true, if_false]
    exact ⟨_, rfl⟩

/-- A section leads to one model at most. -/
theorem LeadsTo.unique {other : String} (h : LeadsTo holds modelDir config model)
    (hother : LeadsTo holds modelDir config other) : model = other := by
  obtain ⟨_, hmodel⟩ := model_of_leadsTo h
  obtain ⟨_, hsame⟩ := model_of_leadsTo hother
  exact (Prod.mk.inj (Except.ok.inj (hmodel.symm.trans hsame))).1

/-- A section that leads to no model is invalid. -/
theorem model_of_not_leadsTo (h : ∀ model, ¬ LeadsTo holds modelDir config model) :
    ∃ reason, config.model holds modelDir = .error (.config reason) := by
  have hnone := mt exists_leadsTo_iff.mpr (not_exists.mpr h)
  rw [not_or, not_exists, not_exists] at hnone
  have hpath : config.pathToModel? = none := by
    simp only [Option.eq_none_iff_forall_ne_some, Ne, pathToModel?_eq_some_iff]
    exact hnone.2
  rw [HandlerConfig.model, namedModel?_eq_none_iff.mpr hnone.1, hpath]
  exact ⟨_, rfl⟩

/-! ## The arguments -/

/-- Every member that is an argument, other than the model, is accepted as a value of it. -/
def AcceptsArgs (config : HandlerConfig) : Prop :=
  ∀ field : RecordField EngineArgs, field ∈ Record.fields → field.name ≠ "model" →
    ∀ j ∈ config.engineConfig.get? field.name, field.type.Accepts j

/-- The arguments other than the model are what the section says. -/
structure Fills (config : HandlerConfig) (args : EngineArgs) : Prop where
  /-- an argument with a member is what that stands for -/
  named : ∀ field : RecordField EngineArgs, field ∈ Record.fields → field.name ≠ "model" →
    ∀ j ∈ config.engineConfig.get? field.name, field.type.Denotes j (field.get args)
  /-- one without a member has its default -/
  unnamed : ∀ field : RecordField EngineArgs, field ∈ Record.fields → field.name ≠ "model" →
    config.engineConfig.get? field.name = none →
      field.get args = field.get (EngineArgs.ofModel args.model)

/-- The engine arguments that the section stands for. -/
structure ResolvesTo (holds : String → Bool) (modelDir : String) (config : HandlerConfig)
    (args : EngineArgs) : Prop where
  model : LeadsTo holds modelDir config args.model
  others : config.Fills args

/-- The defaults hold no infinity, whatever the model is. -/
theorem isFinite_ofModel (model : String) : Record.IsFinite (EngineArgs.ofModel model) := by
  have hutilization : FieldType.real64.IsFinite (.ofDecimal Number.binary64 false 9 (-1)) := by
    decide +kernel
  simp only [FieldType.IsFinite] at hutilization
  simp [Record.IsFinite, Record.fields, EngineArgs.fields, EngineArgs.ofModel, FieldType.IsFinite,
    hutilization]

/-- The member for the model is no override. -/
theorem accepts_erase_iff :
    Record.Accepts EngineArgs (config.engineConfig.erase "model") ↔ config.AcceptsArgs := by
  refine forall₂_congr fun field _ => ?_
  rw [Members.get?_erase]
  by_cases hname : field.name = "model" <;> simp [hname]

/-- The field of the model, which is the only one of that name. -/
theorem eq_model_of_name {field : RecordField EngineArgs} (hmem : field ∈ Record.fields)
    (hname : field.name = "model") : field = ⟨"model", .plain .string, (·.model)⟩ := by
  have hmodel : (⟨"model", .plain .string, (·.model)⟩ : RecordField EngineArgs) ∈ Record.fields :=
    List.mem_cons_self
  exact List.inj_on_of_nodup_map Record.nodup_names hmem hmodel hname

/-- Overriding the defaults for a model fills in the others. -/
theorem overwritten_erase_iff :
    Record.Overwritten (EngineArgs.ofModel model) (config.engineConfig.erase "model") args ↔
      args.model = model ∧ config.Fills args := by
  constructor
  · rintro ⟨hnamed, hunnamed⟩
    have hmodel : args.model = model :=
      hunnamed ⟨"model", .plain .string, (·.model)⟩ List.mem_cons_self (by simp [Members.get?_erase])
    refine ⟨hmodel, fun field hmem hname j hj => ?_, fun field hmem hname hnone => ?_⟩
    · refine hnamed field hmem j ?_
      rwa [Members.get?_erase, if_neg hname]
    · rw [hmodel]
      refine hunnamed field hmem ?_
      rwa [Members.get?_erase, if_neg hname]
  · rintro ⟨rfl, hnamed, hunnamed⟩
    refine ⟨fun field hmem j hj => ?_, fun field hmem hnone => ?_⟩
    · by_cases hname : field.name = "model"
      · simp [Members.get?_erase, hname] at hj
      · rw [Members.get?_erase, if_neg hname] at hj
        exact hnamed field hmem hname j hj
    · by_cases hname : field.name = "model"
      · rw [eq_model_of_name hmem hname]
        rfl
      · rw [Members.get?_erase, if_neg hname] at hnone
        exact hunnamed field hmem hname hnone

/-- The arguments for a model are those that the section fills in. -/
theorem argsFor_eq_ok_iff :
    config.argsFor model = .ok args ↔ args.model = model ∧ config.Fills args := by
  rw [← overwritten_erase_iff, ← Record.merge_eq_ok_iff_overwritten (isFinite_ofModel model),
    argsFor]
  cases merge (EngineArgs.ofModel model) (config.engineConfig.erase "model") <;> simp

/-- There are some exactly if the members are accepted. -/
theorem exists_argsFor_iff : (∃ args, config.argsFor model = .ok args) ↔ config.AcceptsArgs := by
  rw [← accepts_erase_iff, ← Record.exists_merge_iff_accepts (isFinite_ofModel model), argsFor]
  cases merge (EngineArgs.ofModel model) (config.engineConfig.erase "model") <;> simp

/-- Otherwise the section is invalid. -/
theorem argsFor_error {e : ServiceError} (h : config.argsFor model = .error e) :
    ∃ reason, e = .config reason := by
  rw [argsFor] at h
  split at h
  · exact nomatch h
  · exact ⟨_, (Except.error.inj h).symm⟩

/-! ## Resolving -/

/-- **The two ways to go**: a section that leads to a model has the arguments for it, any other is
invalid. -/
theorem engineArgs_cases (holds : String → Bool) (modelDir : String) (config : HandlerConfig) :
    (∃ model, LeadsTo holds modelDir config model ∧
      (config.engineArgs holds modelDir).1 = config.argsFor model) ∨
    ((∀ model, ¬ LeadsTo holds modelDir config model) ∧
      ∃ reason, (config.engineArgs holds modelDir).1 = .error (.config reason)) := by
  by_cases hleads : ∃ model, LeadsTo holds modelDir config model
  · obtain ⟨model, hmodel⟩ := hleads
    obtain ⟨log, hlog⟩ := model_of_leadsTo hmodel
    refine .inl ⟨model, hmodel, ?_⟩
    rw [engineArgs, hlog]
  · rw [not_exists] at hleads
    obtain ⟨reason, hreason⟩ := model_of_not_leadsTo hleads
    refine .inr ⟨hleads, reason, ?_⟩
    rw [engineArgs, hreason]

/-- **What is resolved** is what the section stands for. -/
theorem engineArgs_eq_ok_iff :
    (config.engineArgs holds modelDir).1 = .ok args ↔ ResolvesTo holds modelDir config args := by
  rcases engineArgs_cases holds modelDir config with ⟨model, hmodel, hargs⟩ | ⟨hnone, reason, herror⟩
  · rw [hargs, argsFor_eq_ok_iff]
    constructor
    · rintro ⟨rfl, hfills⟩
      exact ⟨hmodel, hfills⟩
    · rintro ⟨hleads, hfills⟩
      exact ⟨hleads.unique hmodel, hfills⟩
  · rw [herror]
    exact iff_of_false (fun h => nomatch h) fun h => hnone _ h.model

/-- **Which sections are resolved**: those that name a model or say where it lies, and whose other
members are accepted. -/
theorem exists_engineArgs_iff : (∃ args, (config.engineArgs holds modelDir).1 = .ok args) ↔
    ((∃ model, config.Names model) ∨ ∃ path, config.Locates path) ∧ config.AcceptsArgs := by
  rw [← @exists_leadsTo_iff holds modelDir]
  rcases engineArgs_cases holds modelDir config with ⟨model, hmodel, hargs⟩ | ⟨hnone, reason, herror⟩
  · rw [hargs, exists_argsFor_iff]
    exact (and_iff_right ⟨model, hmodel⟩).symm
  · rw [herror]
    exact iff_of_false (fun ⟨_, h⟩ => nomatch h) fun h => h.1.elim hnone

/-- The others are invalid. -/
theorem engineArgs_error {e : ServiceError} (h : (config.engineArgs holds modelDir).1 = .error e) :
    ∃ reason, e = .config reason := by
  rcases engineArgs_cases holds modelDir config with ⟨model, -, hargs⟩ | ⟨-, reason, herror⟩
  · exact argsFor_error (hargs.symm.trans h)
  · exact ⟨reason, Except.error.inj (h.symm.trans herror)⟩

end HandlerConfig

/-! ## Opening -/

/-- What becomes of a handler that is to be opened with the arguments that were resolved. -/
structure Opening.Follows (resolved : Except ServiceError EngineArgs)
    (load : EngineArgs → Except ServiceError Engine) (adapters : AdapterTable)
    (opening : Opening) : Prop where
  /-- the engine is loaded once with the arguments, or never -/
  loads : opening.loads = resolved.toOption.toList
  unresolved : ∀ e, resolved = .error e → opening.result = .error e
  /-- what goes wrong when the engine is loaded is passed on -/
  unloaded : ∀ args e, resolved = .ok args → load args = .error e → opening.result = .error e
  /-- the handler keeps the engine and the arguments, and has not been called -/
  opened : ∀ args engine, resolved = .ok args → load args = .ok engine →
    opening.result = .ok { engine, args, adapters }

namespace Handler

variable {holds : String → Bool} {modelDir : String} {config : HandlerConfig} {args : EngineArgs}

/-- Without arguments nothing is loaded. -/
theorem open_of_error {e : ServiceError} (h : (config.engineArgs holds modelDir).1 = .error e)
    (load : EngineArgs → Except ServiceError Engine) :
    Handler.open holds modelDir config load =
      { result := .error e, loads := [], log := (config.engineArgs holds modelDir).2 } := by
  unfold Handler.open
  split
  · rename_i hargs
    rw [hargs] at h ⊢
    obtain rfl := Except.error.inj h
    rfl
  · rename_i hargs
    rw [hargs] at h
    cases h

/-- With arguments the engine is loaded. -/
theorem exists_open_of_ok (h : (config.engineArgs holds modelDir).1 = .ok args) :
    ∃ log, ∀ load, Handler.open holds modelDir config load =
      { result := (load args).map fun engine =>
          { engine, args, adapters := { modelDir, paths := config.adapters } }
        loads := [args], log } := by
  unfold Handler.open
  split
  · rename_i hargs
    rw [hargs] at h
    cases h
  · rename_i hargs
    rw [hargs] at h
    obtain rfl := Except.ok.inj h
    exact ⟨_, fun _ => rfl⟩

/-- **Opening** follows from the arguments that are resolved. -/
theorem follows_open (holds : String → Bool) (modelDir : String) (config : HandlerConfig)
    (load : EngineArgs → Except ServiceError Engine) :
    (Handler.open holds modelDir config load).Follows (config.engineArgs holds modelDir).1 load
      { modelDir, paths := config.adapters } := by
  cases hresolved : (config.engineArgs holds modelDir).1 with
  | error e =>
    rw [open_of_error hresolved load]
    constructor
    · rfl
    · intro other h
      obtain rfl := Except.error.inj h
      rfl
    · intro args other h
      cases h
    · intro args engine h
      cases h
  | ok args =>
    obtain ⟨log, hopen⟩ := exists_open_of_ok hresolved
    rw [hopen load]
    constructor
    · rfl
    · intro e h
      cases h
    · intro other e h hload
      obtain rfl := Except.ok.inj h
      rw [hload]
      rfl
    · intro other engine h hload
      obtain rfl := Except.ok.inj h
      rw [hload]
      rfl

/-- What is loaded for the arguments is all that counts of a loader. -/
theorem open_congr {load load' : EngineArgs → Except ServiceError Engine}
    (h : ∀ args ∈ (Handler.open holds modelDir config load).loads, load' args = load args) :
    Handler.open holds modelDir config load' = Handler.open holds modelDir config load := by
  cases hresolved : (config.engineArgs holds modelDir).1 with
  | error e => rw [open_of_error hresolved, open_of_error hresolved]
  | ok args =>
    obtain ⟨log, hopen⟩ := exists_open_of_ok hresolved
    rw [hopen load] at h ⊢
    rw [hopen load', h args List.mem_cons_self]

end Handler

/-- **A handler is opened with the arguments that its section stands for.** There are such arguments
exactly if the section names a model or says where it lies and its other members are accepted; the
model is not empty then, and otherwise the section is invalid. The engine is loaded with the
arguments, once, if there are any; it is loaded with nothing else. -/
theorem opening_resolves_once (holds : String → Bool) (modelDir : String) (config : HandlerConfig)
    (load : EngineArgs → Except ServiceError Engine) :
    let resolved := (config.engineArgs holds modelDir).1
    let opening := Handler.open holds modelDir config load
    ((∃ args, resolved = .ok args) ↔
      ((∃ model, config.Names model) ∨ ∃ path, config.Locates path) ∧ config.AcceptsArgs) ∧
    (∀ args, resolved = .ok args ↔ config.ResolvesTo holds modelDir args) ∧
    (∀ args, resolved = .ok args → args.model ≠ "") ∧
    (∀ e, resolved = .error e → ∃ reason, e = .config reason) ∧
    opening.Follows resolved load { modelDir, paths := config.adapters } ∧
    ∀ load', (∀ args ∈ opening.loads, load' args = load args) →
      Handler.open holds modelDir config load' = opening := by
  refine ⟨HandlerConfig.exists_engineArgs_iff, fun _ => HandlerConfig.engineArgs_eq_ok_iff,
    fun args hargs => ?_, fun _ => HandlerConfig.engineArgs_error,
    Handler.follows_open holds modelDir config load, fun _ => Handler.open_congr⟩
  exact (HandlerConfig.engineArgs_eq_ok_iff.mp hargs).model.ne_empty

end CompletionService
