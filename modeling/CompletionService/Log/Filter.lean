import CompletionService.Log.Event
import CompletionService.Log.Pattern
import CompletionService.Text.Offset

/-!
# Which events are shown

A `Filter` is a list of directives, each of which gives a threshold to the events whose target
starts with a certain text. Of the directives that an event meets the most specific decides. A
filter is written as directives with commas between them:

* `info` — the threshold of all events, by name in any case, or as a number from 0 to 5;
* `storage=warn` — that of the events of a target, where no threshold means all of them;
* `storage` — all events of a target;
* `storage[{path}]=debug` — that of the events of a target with a certain field, which may also be
  wanted of events of any target. The message of an event is a field as well. With a span before the
  field, or a value in it, a directive is about spans, of which this service has none.
-/

namespace CompletionService.Log

/-- The highest rank of level that is shown; 0 shows nothing. -/
abbrev Threshold := Nat

/-- The threshold that shows everything. -/
def Threshold.all : Threshold := Level.trace.rank

/-- The thresholds with a name. -/
def Threshold.names : List (String × Threshold) :=
  ("off", 0) ::
    [Level.error, .warn, .info, .debug, .trace].map fun level => (level.name, level.rank)

/-- The threshold with a number or a name. -/
def Threshold.ofText? (text : String) : Option Threshold :=
  let digits := match text.toList with
    | '+' :: rest => rest
    | cs => cs
  let number? := if digits.isEmpty then none else Text.number? 10 digits
  match number?.filter (· ≤ Threshold.all) with
  | some n => some n
  | none => if text = "" then some Level.error.rank else names.lookup text.toLower

/-- One rule of a filter. -/
structure Directive where
  /-- what the targets start with; any target, if there is none -/
  target? : Option String := none
  /-- the field that the events must have, if there is one -/
  field? : Option String := none
  threshold : Threshold := .all
  deriving DecidableEq

/-! ## Values of fields -/

/-- The text is a number without a sign, of any size and with any fraction. -/
def isUnsigned (cs : List Char) : Bool :=
  let whole := cs.takeWhile Char.isDigit
  let (fraction, exponent) := match cs.drop whole.length with
    | '.' :: rest => rest.span Char.isDigit
    | rest => ([], rest)
  let exponentIsNumber := match exponent with
    | [] => true
    | 'e' :: rest | 'E' :: rest =>
      let digits := match rest with
        | '+' :: digits | '-' :: digits => digits
        | digits => digits
      !digits.isEmpty && digits.all Char.isDigit
    | _ => false
  ["inf", "infinity", "nan"].contains (String.ofList cs).toLower ||
    (!(whole.isEmpty && fraction.isEmpty) && exponentIsNumber)

/-- What may be wanted of the value of a field. Truth values and all numbers without a plus sign are
patterns, too. -/
def isWanted : List Char → Bool
  | '+' :: rest => isUnsigned rest
  | cs => isPattern cs

/-- What a directive says about a field: its name, and what its value should be. Of several equals
signs the first two end these. -/
structure FieldMatch where
  name : String
  value? : Option (List Char)
  deriving DecidableEq

/-- A field in braces. -/
def FieldMatch.ofText? (cs : List Char) : Option FieldMatch :=
  let name := cs.takeWhile (· != '=')
  let value? := match cs.drop name.length with
    | _ :: rest => some (rest.takeWhile (· != '='))
    | [] => none
  if value?.all isWanted then some { name := String.ofList name, value? } else none

/-! ## Reading -/

/-- What a directive is about. -/
inductive Subject
  | events (directive : Directive)
  /-- spans, and so no event -/
  | spans
  deriving DecidableEq

/-- The characters that may begin a directive. -/
def beginsDirective (c : Char) : Bool :=
  c == '[' || c == '-' || c == ':' || c == '_' || Text.isAlphanumeric c

/-- Without the white space at either end. -/
def trim (cs : List Char) : List Char :=
  ((cs.dropWhile Text.isSpace).reverse.dropWhile Text.isSpace).reverse

/-- A directive as it is written. -/
structure Written where
  text : List Char

namespace Written

/-- What decides where the parts of a directive are: the white space around it does not count. -/
def trimmed (w : Written) : List Char := trim w.text

/-- The part that begins where `rest` is left of the trimmed text, so many bytes long. It is taken
from the text with its white space, at the same place, so white space before a directive shifts
all of its parts. -/
def part? (w : Written) (rest : List Char) (length : Nat) : Option (List Char) :=
  (Text.dropBytes? (Text.byteLength w.trimmed - Text.byteLength rest) w.text).map
    (Text.takeBytes length)

/-- The threshold after an equals sign, where `rest` begins: all that follows, so white space after
it makes it none. -/
def threshold? (w : Written) (rest : List Char) : Option Threshold := do
  let level ← w.part? rest (Text.byteLength w.text)
  if level.isEmpty then some Threshold.all else Threshold.ofText? (String.ofList level)

/-- The end of a directive, after its brackets; without a field it is about a span. -/
def close? (w : Written) (target? : Option String) (field? : Option FieldMatch)
    (rest : List Char) : Option Subject := do
  let threshold ← match rest with
    | [] => some .all
    | '=' :: rest => w.threshold? rest
    | _ => none
  return match field? with
    | some { name, value? := none } => .events { target?, field? := name, threshold }
    | _ => .spans

/-- The part of a directive in brackets, after the opening one, and all that follows. -/
def inBrackets? (w : Written) (target? : Option String) (cs : List Char) : Option Subject := do
  let span := cs.takeWhile fun c => c != ']' && c != '{'
  match cs.drop span.length with
  | ']' :: rest => w.close? target? none rest
  | '{' :: inside =>
    let field := inside.takeWhile (· != '}')
    match inside.drop field.length with
    | '}' :: ']' :: rest =>
      if field.isEmpty then none
      else
        let wanted ← FieldMatch.ofText? (← w.part? inside (Text.byteLength field))
        w.close? target? (if span.isEmpty then wanted else none) rest
    | _ => none
  | _ => none

/-- One directive. -/
def subject? (w : Written) : Option Subject := do
  let cs := w.trimmed
  let name := cs.takeWhile fun c => c != '=' && c != '['
  let target ← w.part? cs (Text.byteLength name)
  if !cs.head?.any beginsDirective then none
  else match cs.drop name.length with
    | [] =>
      let text := String.ofList w.text
      match Threshold.ofText? text with
      | some threshold => some (.events { threshold })
      | none => some (.events { target? := text })
    | '=' :: rest =>
      return .events { target? := String.ofList target, threshold := ← w.threshold? rest }
    | _ :: inside =>
      w.inBrackets? (if name.isEmpty then none else String.ofList target) inside

end Written

/-! ## Filters -/

/-- The directives that decide about events. -/
structure Filter where
  directives : List Directive

namespace Filter

/-- The directives of a text; empty ones do not count. Without any, errors are shown. -/
def ofText? (text : String) : Option Filter := do
  let subjects ← ((text.splitOn ",").filter (· ≠ "")).mapM (Written.subject? ⟨·.toList⟩)
  if subjects.isEmpty then some ⟨[{ threshold := Level.error.rank }]⟩
  else
    some ⟨subjects.filterMap fun
      | .events directive => some directive
      | .spans => none⟩

/-- The filter of a service that is told nothing else. -/
def standard : Filter := ⟨[{ threshold := Level.info.rank }]⟩

/-- The filter that a variable asks for, if it is set to one. -/
def ofSetting (setting? : Option String) : Filter := (setting?.bind ofText?).getD standard

/-- A directive is about an event. -/
def meets (d : Directive) (e : Event) : Bool :=
  d.target?.all (fun target => target.toList.isPrefixOf e.target.toList) &&
    d.field?.all fun field => field == "message" || e.fields.any (·.1 == field)

/-- How specific a directive is: first by the length of its target, then by its field. -/
def specificity (d : Directive) : Nat × Nat :=
  ((d.target?.map (·.utf8ByteSize + 1)).getD 0, d.field?.toList.length)

/-- The later of two directives decides if they are equally specific and the same but for the
threshold; otherwise the more specific, and last the one whose field has the greater name. -/
def stronger (c d : Directive) : Directive :=
  let (m, n) := (specificity c, specificity d)
  if n.1 < m.1 || (n.1 == m.1 && n.2 < m.2) then c
  else if m == n && d.field?.toList < c.field?.toList then c
  else d

/-- The directive that decides about an event. -/
def decisive? (f : Filter) (e : Event) : Option Directive :=
  match f.directives.filter (meets · e) with
  | [] => none
  | d :: rest => some (rest.foldl stronger d)

/-- An event is shown. -/
def shows (f : Filter) (e : Event) : Bool := (f.decisive? e).any (e.level.rank ≤ ·.threshold)

end Filter

end CompletionService.Log
