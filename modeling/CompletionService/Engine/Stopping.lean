import CompletionService.Engine.Sampling
import CompletionService.Text.Offset

/-!
# When a generation stops

How many tokens a request may produce, when its generation ends, and how much of the running text
may be shown. A text that could be the start of a stop text is held back until it either completes
the stop text, and is cut, or no longer matches. Lengths of text are in bytes.
-/

namespace CompletionService

open Text

/-- The number of tokens that a request may produce: its own limit, else what the model has room for
after the prompt, else the default. -/
def tokenBudget (params : SamplingParams) (maxModelLen : Option UInt64) (promptTokens : UInt64) :
    Nat :=
  match params.maxTokens, maxModelLen with
  | some limit, _ => limit.toNat
  | none, some room => room.toNat - promptTokens.toNat
  | none, none => (SamplingParams.default.maxTokens.getD 16).toNat

/-- Why a generation ended. -/
inductive FinishReason
  | stop
  | length
  deriving DecidableEq, Repr

/-- The name of a reason. -/
def FinishReason.name : FinishReason → String
  | .stop => "stop"
  | .length => "length"

/-- What follows from the last token. -/
structure Step where
  /-- the length of the text that may be shown -/
  visible : Nat
  finish? : Option FinishReason
  deriving DecidableEq, Repr

/-- A text is longer than `tail` and starts with it. -/
def startsProperly (tail stop : List Char) : Bool := tail.isPrefixOf stop && tail != stop

/-- The length of the longest end of the text, of `length` bytes, that takes at most `window` bytes
and is the start of a stop text. -/
def heldBackWithin (stops : List (List Char)) (window : Nat) : (length : Nat) → List Char → Nat
  | _, [] => 0
  | length, c :: cs =>
    if length ≤ window && stops.any (startsProperly (c :: cs)) then length
    else heldBackWithin stops window (length - c.utf8Size) cs

/-- The length of the longest end of the text that is the start of a stop text, though not all of
it. Ends longer than all stop texts need not be tried. -/
def heldBack (stops : List (List Char)) (text : List Char) : Nat :=
  let window := (stops.map byteLength).foldl max 0
  heldBackWithin stops window (byteLength text) text

/-- The smaller of two offsets, where there may be none. -/
def earlier : Option Nat → Option Nat → Option Nat
  | some a, some b => some (min a b)
  | some a, none => some a
  | none, b => b

/-- The first offset at which a stop text starts; the empty text stops nothing. -/
def firstStop (stops : List (List Char)) (text : List Char) : Option Nat :=
  ((stops.filter (!·.isEmpty)).map (find? · text)).foldl earlier none

/-- The token ends the generation: it is the end of the sequence, unless that is ignored, or one of
the stop tokens. -/
def stopsOn (params : SamplingParams) (eos : Option TokenId) (token : TokenId) : Bool :=
  (!params.ignoreEos && some token == eos) || params.stopTokenIds.contains token

/-- What follows from the last of the tokens `generated`, whose text is `text`, when `shownBefore`
bytes were shown before it. A stop token releases all text; a stop text is cut off, though nothing
that was shown is withdrawn; neither counts before the least number of tokens. At the end of the
budget all text is released. -/
def evaluateStep (params : SamplingParams) (eos : Option TokenId) (generated : List TokenId)
    (text : String) (budget shownBefore : Nat) : Step :=
  let cs := text.toList
  let stops := params.stop.map String.toList
  let pastMinimum : Bool := params.minTokens.toNat ≤ generated.length
  -- a stop token goes before a stop text, and both before the budget
  if pastMinimum && generated.getLast?.any (stopsOn params eos) then
    ⟨byteLength cs, some .stop⟩
  else match if pastMinimum then firstStop stops cs else none with
    | some offset => ⟨charFloor (max offset shownBefore) cs, some .stop⟩
    | none =>
      if budget ≤ generated.length then ⟨byteLength cs, some .length⟩
      else ⟨charFloor (max (byteLength cs - heldBack stops cs) shownBefore) cs, none⟩

end CompletionService
