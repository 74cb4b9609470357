import CompletionService.Deployment.Address
import CompletionService.Path

/-!
# Settings from the environment

The settings that come from environment variables, each with a default for a variable that is not
set or whose value is no text.
-/

namespace CompletionService

/-- The environment variables that are set to a text. -/
abbrev Environment := (name : String) → Option String

/-- The settings of the service. -/
structure AppConfig where
  listenAddress : SocketAddress
  /-- the name under which the model is served -/
  modelName : String
  /-- the directory of models -/
  modelDir : String
  /-- the file of the deployment -/
  modelConfigPath : String

namespace AppConfig

/-- Port 8080 of this machine. -/
def defaultAddress : SocketAddress := .v4 ⟨[127, 0, 0, 1]⟩ 8080

/-- The settings in an environment. An address that cannot be read counts as none. -/
def ofEnvironment (env : Environment) : AppConfig :=
  let modelDir := (env "MODEL_DIR").getD "model_store"
  {
    listenAddress := ((env "SERVER_ADDR").bind SocketAddress.ofText?).getD defaultAddress
    modelName := (env "MODEL_NAME").getD "model"
    modelDir
    modelConfigPath :=
      (env "MODEL_CONFIG_PATH").getD (Path.join modelDir "model-config.yaml") }

end AppConfig

end CompletionService
