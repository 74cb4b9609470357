import CompletionService.Deployment.Startup
import Std.Time.Format
import Std.Time.Zoned

/-!
# The program

Takes the settings from the environment, reads the file of the deployment, opens the handler, and
writes the log to the standard output. No engine is part of the program, so it ends with an error.
-/

namespace CompletionService.Program

/-- The environment variables that the program looks at, with their values. -/
def environment : IO Environment := do
  let names := ["SERVER_ADDR", "MODEL_NAME", "MODEL_DIR", "MODEL_CONFIG_PATH", "RUST_LOG"]
  let values ← names.mapM fun name => do return (name, ← IO.getEnv name)
  return fun name => (values.lookup name).join

/-- What the system says about a file that cannot be read. -/
def faultOf : IO.Error → ReadFault
  | .noFileOrDirectory .. => .notFound
  | .inappropriateType _ code details =>
    if code = 20 then .notADirectory
    else if code = 21 then .isADirectory
    else .other s!"{details} (os error {code})"
  | .permissionDenied _ code details => .other s!"{details} (os error {code})"
  | e => .other (toString e)

/-- The text of a file. -/
def readText (path : String) : IO (Except ReadFault String) := do
  try
    match String.fromUTF8? (← IO.FS.readBinFile path) with
    | some text => return .ok text
    | none => return .error .notUtf8
  catch e => return .error (faultOf e)

/-- Something is at a path. -/
def isThere (path : String) : IO Bool := do
  try
    let _ ← IO.FS.Handle.mk path .read
    return true
  catch
    | .permissionDenied .. => return true
    | _ => return false

/-- What the start looks at in the file system: the file of the deployment, and the place where the
model may be. -/
def snapshot (settings : AppConfig) : IO Storage := do
  let contents ← readText settings.modelConfigPath
  let place? := match contents with
    | .error _ => none
    | .ok text =>
      match ModelConfig.ofYaml text with
      | .error _ => none
      | .ok config => config.handler.localModel? settings.modelDir
  let found ← match place? with
    | none => pure false
    | some place => isThere place
  return {
    holds := fun path => found && place? == some path
    read := fun _ => contents }

/-- The time, in UTC. -/
def now : IO String := do
  let time := Std.Time.DateTime.ofTimestamp (← Std.Time.Timestamp.now) .UTC
  return time.format "uuuu-MM-dd'T'HH:mm:ss.SSSSSS'Z'"

/-- Writes the log lines of some events. -/
def report (env : Environment) (log : List Log.Event) : IO Unit := do
  for line in logLines env log (← now) do
    IO.println line

end CompletionService.Program

open CompletionService CompletionService.Program in
/-- Starts the service. -/
def main : IO UInt32 := do
  let env ← environment
  let settings := AppConfig.ofEnvironment env
  report env [startEvent settings]
  let opening := startup (← snapshot settings) settings
  report env opening.log
  let exit := opening.exit
  IO.eprint exit.complaint
  return exit.code
