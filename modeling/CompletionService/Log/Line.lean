import CompletionService.Log.Event
import CompletionService.Text.Literal

/-!
# Log lines

The line that shows an event: when it came, its level, its message and its fields.
-/

namespace CompletionService.Log

/-- A value as it is shown. -/
def Value.shown : Value → String
  | .plain text => text
  | .quoted text => Text.quoted text

/-- A level in five columns, to the right. -/
def Level.label (level : Level) : String :=
  let name := level.name.toUpper
  String.ofList (List.replicate (5 - name.length) ' ') ++ name

/-- The line of an event that came at a time. -/
def Event.line (e : Event) (time : String) : String :=
  let fields := e.fields.map fun (name, value) => s!" {name}={value.shown}"
  s!"{time} {e.level.label} {e.message}" ++ String.join fields

end CompletionService.Log
