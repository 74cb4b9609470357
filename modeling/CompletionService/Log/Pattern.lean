import CompletionService.Text.Alphanumeric
import CompletionService.Text.Digit
import CompletionService.Text.Unicode

/-!
# Patterns of values

The value that a filter wants of a field is a number, a truth value or a *pattern*, that is, a
regular expression. Nothing is matched against a pattern here: all that counts is which texts are
patterns. Three layers:

* flags — what a group like `(?i)` changes;
* atoms — characters, escapes and classes in brackets;
* patterns — `isPattern`, which follows groups and repetitions.

Patterns are about characters, but know no tables of them: classes such as `\d`, the edges of words
and characters of either case are there for bytes only, that is, under `(?-u)`. There, on the other
hand, a pattern may not match a part of a character.
-/

namespace CompletionService.Log

/-! ## Flags -/

/-- What flags change about which texts are patterns. -/
structure PatternFlags where
  /-- case does not matter -/
  ignoreCase : Bool := false
  /-- a pattern is about characters, not bytes -/
  ofChars : Bool := true
  /-- white space and comments do not count -/
  spaced : Bool := false
  deriving DecidableEq

namespace PatternFlags

/-- With one flag switched. -/
def switch (flags : PatternFlags) (on : Bool) : Char → PatternFlags
  | 'i' => { flags with ignoreCase := on }
  | 'u' => { flags with ofChars := on }
  | 'x' => { flags with spaced := on }
  | _ => flags

/-- Flags after those `seen`, the last first, up to the sign that ends them. A parenthesis closes
the group, and a colon does not: the result tells which. -/
def read? (flags : PatternFlags) (seen : List Char) :
    List Char → Option (PatternFlags × Bool × List Char)
  | [] => none
  | c :: rest =>
    if c == ')' then
      if seen.isEmpty || seen.head? == some '-' then none else some (flags, true, rest)
    else if c == ':' then
      if seen.head? == some '-' then none else some (flags, false, rest)
    else if "imsUuRx-".toList.contains c && !seen.contains c then
      read? (flags.switch (!seen.contains '-') c) (c :: seen) rest
    else none

/-- Past white space and comments; `comment` tells whether one has begun. -/
def pastSpace (comment : Bool) : List Char → List Char
  | [] => []
  | c :: cs =>
    if comment then pastSpace (c != '\n') cs
    else if c == '#' then pastSpace true cs
    else if Text.isSpace c then pastSpace false cs
    else c :: cs

/-- Past what does not count. -/
def skipSpace (flags : PatternFlags) (cs : List Char) : List Char :=
  if flags.spaced then pastSpace false cs else cs

/-- Characters and classes of them are there: if case does not matter, only those of bytes. -/
def comparesChars (flags : PatternFlags) : Bool := !(flags.ignoreCase && flags.ofChars)

end PatternFlags

/-! ## Atoms -/

/-- What an escape or a single character stands for. -/
inductive PatternAtom
  /-- a character, and whether it is written as a byte -/
  | char (c : Char) (byte : Bool)
  /-- a class of bytes, or all the others -/
  | bytes (negated : Bool)
  /-- an edge of the text, or of a word -/
  | edge (ofWord : Bool)
  deriving DecidableEq

namespace PatternAtom

/-- The atom may stand in a pattern. -/
def stands (flags : PatternFlags) : PatternAtom → Bool
  | .char c byte => flags.comparesChars && (flags.ofChars || !byte || c.toNat < 0x80)
  | .bytes negated => !flags.ofChars && !negated
  | .edge ofWord => !(ofWord && flags.ofChars)

/-- The atom may stand in a class. -/
def standsInClass (flags : PatternFlags) : PatternAtom → Bool
  | .char c _ => flags.ofChars || c.toNat < 0x80
  | .bytes negated => !flags.ofChars && !negated
  | .edge _ => false

/-- The number of digits that an escape by code has. -/
def digits? : Char → Option Nat
  | 'x' => some 2
  | 'u' => some 4
  | 'U' => some 8
  | _ => none

/-- The code of control characters with a letter. -/
def control? : Char → Option Char
  | 'a' => some '\x07'
  | 'f' => some '\x0C'
  | 't' => some '\t'
  | 'n' => some '\n'
  | 'r' => some '\r'
  | 'v' => some '\x0B'
  | _ => none

/-- So many hexadecimal digits, after those that make `code`. -/
def code? (flags : PatternFlags) : (digits code : Nat) → List Char → Option (Nat × List Char)
  | 0, code, cs => some (code, cs)
  | digits + 1, code, cs =>
    match flags.skipSpace cs with
    | [] => none
    | c :: rest => do code? flags digits (code * 16 + (← Text.digit? 16 c)) rest

/-- An escape, after its backslash. -/
def escape? (flags : PatternFlags) : List Char → Option (PatternAtom × List Char)
  | [] => none
  | c :: rest =>
    match digits? c, control? c with
    | some digits, _ => do
      let (code, rest) ← code? flags digits 0 rest
      if code.isValidChar then some (.char (Char.ofNat code) (digits == 2), rest) else none
    | none, some control => some (.char control false, rest)
    | none, none =>
      if "dsw".toList.contains c then some (.bytes false, rest)
      else if "DSW".toList.contains c then some (.bytes true, rest)
      else if "Az".toList.contains c then some (.edge false, rest)
      else if "bB<>".toList.contains c then some (.edge true, rest)
      else if c.toNat < 0x80 && !c.isAlphanum then some (.char c false, rest)
      else none

/-- An atom of a class: an escape, or any character. -/
def inClass? (flags : PatternFlags) : List Char → Option (PatternAtom × List Char)
  | [] => none
  | '\\' :: rest => escape? flags rest
  | c :: rest => some (.char c false, rest)

/-- The atoms can be the ends of a range. -/
def isRange : PatternAtom → PatternAtom → Bool
  | .char c _, .char d _ => c ≤ d
  | _, _ => false

end PatternAtom

/-! ## Classes -/

/-- The classes with a name between colons. -/
def classNames : List String :=
  ["alnum", "alpha", "ascii", "blank", "cntrl", "digit", "graph", "lower", "print", "punct",
    "space", "upper", "word", "xdigit"]

/-- A class with a name, after its bracket: whether it is negated, and what follows. -/
def namedClass? : List Char → Option (Bool × List Char)
  | ':' :: rest =>
    let negated := rest.head? == some '^'
    let rest := if negated then rest.drop 1 else rest
    let name := rest.takeWhile (· != ':')
    match rest.drop name.length with
    | ':' :: ']' :: rest =>
      if classNames.contains (String.ofList name) then some (negated, rest) else none
    | _ => none
  | _ => none

/-- A class has begun, after its bracket, and what follows a sign of negation, which classes of
bytes do not have. -/
def openClass? (flags : PatternFlags) (cs : List Char) : Option (List Char) :=
  match flags.skipSpace cs with
  | '^' :: rest => if flags.ofChars then some rest else none
  | rest => some rest

/-- Where in a class something is read. -/
inductive ClassPlace
  /-- at its start, where a closing bracket is one of its characters -/
  | start
  /-- after dashes at its start, which are characters of it -/
  | dashes
  | inside
  deriving DecidableEq

/-- Past an atom of a class, a range, or a sign between two parts of a class. -/
def pastItem? (flags : PatternFlags) : List Char → Option (List Char)
  | '&' :: '&' :: rest | '-' :: '-' :: rest | '~' :: '~' :: rest => some rest
  | cs => do
    let (first, rest) ← PatternAtom.inClass? flags cs
    let rest := flags.skipSpace rest
    let last? := match rest with
      | '-' :: rest => some (flags.skipSpace rest)
      | _ => none
    match last?.filter fun rest => !rest.head?.any fun c => c == ']' || c == '-' with
    | none => if first.standsInClass flags then some rest else none
    | some rest =>
      let (last, rest) ← PatternAtom.inClass? flags rest
      let stand := first.standsInClass flags && last.standsInClass flags
      if stand && first.isRange last then some rest else none

/-- Past the rest of a class, and of the `depth` classes around it. -/
def pastClass? (flags : PatternFlags) :
    (steps depth : Nat) → ClassPlace → List Char → Option (List Char)
  | 0, _, _, _ => none
  | steps + 1, depth, place, cs =>
    match flags.skipSpace cs, place with
    | '[' :: rest, _ =>
      match namedClass? rest with
      | none => do pastClass? flags steps (depth + 1) .start (← openClass? flags rest)
      | some (negated, rest) =>
        if negated && !flags.ofChars then none else pastClass? flags steps depth .inside rest
    | ']' :: rest, .start => pastClass? flags steps depth .inside rest
    | ']' :: rest, _ =>
      match depth with
      | 0 => some rest
      | depth + 1 => pastClass? flags steps depth .inside rest
    | '-' :: rest, .start | '-' :: rest, .dashes => pastClass? flags steps depth .dashes rest
    | cs, _ => do pastClass? flags steps depth .inside (← pastItem? flags cs)

/-! ## Patterns -/

/-- The character may stand in the name of a group. -/
def isGroupNameChar (first : Bool) (c : Char) : Bool :=
  c == '_' || if first then Text.isAlphanumeric c && !c.isDigit
    else Text.isAlphanumeric c || ".[]".toList.contains c

/-- The name of a group, and what follows its closing bracket. -/
def groupName? (cs : List Char) : Option (List Char × List Char) :=
  let name := cs.takeWhile (· != '>')
  match name, cs.drop name.length with
  | c :: later, _ :: rest =>
    if isGroupNameChar true c && later.all (isGroupNameChar false) then some (name, rest) else none
  | _, _ => none

/-- What the start of a group says. -/
structure GroupStart where
  /-- the flags from here on -/
  flags : PatternFlags
  /-- the group only switches flags, and has ended -/
  closed : Bool := false
  name? : Option (List Char) := none

/-- The start of a group, after its parenthesis. -/
def GroupStart.read? (flags : PatternFlags) : List Char → Option (GroupStart × List Char)
  | '?' :: 'P' :: '<' :: rest | '?' :: '<' :: rest => do
    let (name, rest) ← groupName? rest
    return ({ flags, name? := name }, rest)
  | '?' :: rest => do
    let (flags, closed, rest) ← flags.read? [] rest
    return ({ flags, closed }, rest)
  | rest => some ({ flags }, rest)

/-- The rest of a pattern. `outer` are the flags around the groups that are open, `names` the names
of the groups so far, and `repeatable` tells whether what comes before can be repeated. -/
def endsPattern :
    (steps : Nat) → (flags : PatternFlags) → (outer : List PatternFlags) →
      (names : List (List Char)) → (repeatable : Bool) → List Char → Bool
  | 0, _, _, _, _, _ => false
  | steps + 1, flags, outer, names, repeatable, cs =>
    match flags.skipSpace cs with
    | [] => outer.isEmpty
    | '(' :: rest =>
      match GroupStart.read? flags (flags.skipSpace rest) with
      | none => false
      | some (group, rest) =>
        !group.name?.any names.contains &&
          endsPattern steps group.flags (if group.closed then outer else flags :: outer)
            (group.name?.toList ++ names) false rest
    | ')' :: rest =>
      match outer with
      | [] => false
      | flags :: outer => endsPattern steps flags outer names true rest
    | '|' :: rest => endsPattern steps flags outer names false rest
    | '[' :: rest =>
      match (openClass? flags rest).bind (pastClass? flags rest.length 0 .start) with
      | none => false
      | some rest => flags.comparesChars && endsPattern steps flags outer names true rest
    | '?' :: rest | '*' :: rest | '+' :: rest =>
      let rest := if rest.head? == some '?' then rest.drop 1 else rest
      repeatable && endsPattern steps flags outer names true rest
    | '{' :: _ => false
    | '.' :: rest => flags.ofChars && endsPattern steps flags outer names true rest
    | '^' :: rest | '$' :: rest => endsPattern steps flags outer names true rest
    | '\\' :: rest =>
      match PatternAtom.escape? flags rest with
      | none => false
      | some (atom, rest) => atom.stands flags && endsPattern steps flags outer names true rest
    | c :: rest =>
      (PatternAtom.char c false).stands flags && endsPattern steps flags outer names true rest

/-- The text is a pattern. Braces with a count in them do not occur in a filter. -/
def isPattern (cs : List Char) : Bool := endsPattern (cs.length + 1) {} [] [] false cs

end CompletionService.Log
