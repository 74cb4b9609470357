/-!
# Log events

What the service reports about its work: a level, a target that names the part that reports, a
message and named fields.
-/

namespace CompletionService.Log

/-- How much an event matters, most first. -/
inductive Level
  | error
  | warn
  | info
  | debug
  | trace
  deriving DecidableEq, Repr

namespace Level

/-- The place of a level among all, from 1 on; the higher, the more is reported. -/
def rank : Level → Nat
  | .error => 1
  | .warn => 2
  | .info => 3
  | .debug => 4
  | .trace => 5

/-- The name of a level. -/
def name : Level → String
  | .error => "error"
  | .warn => "warn"
  | .info => "info"
  | .debug => "debug"
  | .trace => "trace"

end Level

/-- How the value of a field is written in a line: as it stands, or quoted. -/
inductive Value
  | plain (text : String)
  | quoted (text : String)
  deriving DecidableEq

/-- The text of a value. -/
def Value.text : Value → String
  | .plain text => text
  | .quoted text => text

/-- One report. -/
structure Event where
  level : Level
  target : String
  message : String
  fields : List (String × Value) := []
  deriving DecidableEq

end CompletionService.Log
