import CompletionService.Deployment.Environment
import CompletionService.Deployment.ModelConfig
import CompletionService.Handler.Run
import CompletionService.Log.Filter
import CompletionService.Log.Line

/-!
# From a deployment to a handler

The arguments of the engine follow from the section for the handler: a model named there wins over
the path of a model, which is one of this machine if something is there and is passed on as it is
written otherwise; the other arguments override their defaults. With the arguments the engine is
loaded, once, and then there is a handler.
-/

namespace CompletionService

/-! ## Engine arguments -/

namespace HandlerConfig

/-- The model that the engine arguments name. -/
def namedModel? (config : HandlerConfig) : Option String :=
  ((config.engineConfig.get? "model").bind Json.string?).filter (· ≠ "")

/-- The path of the model. -/
def pathToModel? (config : HandlerConfig) : Option String := config.modelPath.filter (· ≠ "")

/-- The place on this machine where the model may be; none if the model is named. -/
def localModel? (config : HandlerConfig) (modelDir : String) : Option String :=
  match config.namedModel? with
  | some _ => none
  | none => config.pathToModel?.map (Path.join modelDir)

/-- The model, and what is reported when it is not on this machine. `holds` tells which paths
exist. -/
def model (holds : String → Bool) (modelDir : String) (config : HandlerConfig) :
    Except ServiceError (String × List Log.Event) :=
  match config.namedModel?, config.pathToModel? with
  | some model, _ => .ok (model, [])
  | none, none =>
    .error (.config "please define model in vllm_engine_config or model_path in handler")
  | none, some path =>
    let place := Path.join modelDir path
    if holds place then .ok (place, [])
    else
      .ok (path, [handlerEvent .debug
        "model path does not exist locally; passing it through without model_dir"
        [("path", .plain place)]])

/-- The arguments of the engine for a model: those of the section replace their defaults. -/
def argsFor (config : HandlerConfig) (model : String) : Except ServiceError EngineArgs :=
  match merge (EngineArgs.ofModel model) (config.engineConfig.erase "model") with
  | .ok args => .ok args
  | .error mismatch => .error (.config ("invalid vllm_engine_config: " ++ mismatch.message))

/-- The arguments of the engine, and what is reported on the way. -/
def engineArgs (holds : String → Bool) (modelDir : String) (config : HandlerConfig) :
    Except ServiceError EngineArgs × List Log.Event :=
  match config.model holds modelDir with
  | .error e => (.error e, [])
  | .ok (model, log) =>
    (config.argsFor model, log ++ [handlerEvent .debug "engine model" [("model", .plain model)]])

end HandlerConfig

/-! ## Opening -/

/-- What came of opening a handler: the arguments with which the engine was loaded, each time, and
the reports. -/
structure Opening where
  result : Except ServiceError Handler
  loads : List EngineArgs
  log : List Log.Event

/-- Opens a handler: resolves the engine arguments and loads the engine with them, once. -/
def Handler.open (holds : String → Bool) (modelDir : String) (config : HandlerConfig)
    (load : EngineArgs → Except ServiceError Engine) : Opening :=
  match config.engineArgs holds modelDir with
  | (.error e, log) => { result := .error e, loads := [], log }
  | (.ok args, log) =>
    let opening := handlerEvent .info "instantiating inference engine"
      [("model", .plain args.model), ("adapters", .plain (toString config.adapters.length))]
    let adapters : AdapterTable := { modelDir, paths := config.adapters }
    {
      result := (load args).map fun engine => { engine, args, adapters }
      loads := [args]
      log := log ++ [opening] }

/-! ## Starting -/

/-- Loads an engine, of which none is part of this program. -/
def loadEngine (args : EngineArgs) : Except ServiceError Engine :=
  .error (.config (s!"no inference backend compiled in for model {args.model}; " ++
    "rebuild with --features tch-backend"))

/-- Starts the service with its settings: reads the file of the deployment and opens the handler. -/
def startup (storage : Storage) (settings : AppConfig) : Opening :=
  match ModelConfig.load storage settings.modelConfigPath with
  | .error e => { result := .error e, loads := [], log := [] }
  | .ok config =>
    Handler.open storage.holds settings.modelDir config.handler loadEngine

/-- The report that the service is about to start. -/
def startEvent (settings : AppConfig) : Log.Event where
  level := .info
  target := "vllm_handler_service"
  message := "initializing handler"
  fields := [("model_dir", .plain settings.modelDir),
    ("model_config", .plain settings.modelConfigPath)]

/-! ## The program -/

/-- The end of the program: its exit code, and what it writes about an error. -/
structure Exit where
  code : UInt32
  complaint : String

/-- The end of the program after its start. -/
def Opening.exit (opening : Opening) : Exit :=
  match opening.result with
  | .ok _ => ⟨0, ""⟩
  | .error e => ⟨1, s!"Error: {e.message}\n"⟩

/-- The lines of the log, in an environment that may say what is shown; `time` is when they come. -/
def logLines (env : Environment) (log : List Log.Event) (time : String) : List String :=
  let filter := Log.Filter.ofSetting (env "RUST_LOG")
  (log.filter filter.shows).map (·.line time)

end CompletionService
