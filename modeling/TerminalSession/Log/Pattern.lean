import TerminalSession.Text.CharacterClass

/-! # Patterns of field values

A directive may ask for a field with a certain value, and the value may be given by a pattern, which
is a regular expression. No entry of this program has such values, so a pattern is never compared
with anything; but only a directive with a valid pattern is a directive.

A pattern is valid if it follows the grammar, is not nested too deep, and needs no table of
characters: without tables there are no letters, digits or spaces beyond ASCII, and no pairs of
capital and small letters. Patterns that give up all characters but the bytes of ASCII do without
tables.

A pattern stands between an equals sign and a closing brace, in a list that is divided by commas. So
none of these three signs is part of it, and what cannot be completed without them is not valid: a
number in braces or a property in braces. -/

namespace TerminalSession.Log

/-! A pattern that asks where words start and end in a script that it leaves open is refused with a
reason of its own. -/

inductive PatternError where
  | invalid
  | wordEdges
deriving DecidableEq, Repr

def PatternError.message : PatternError → String
  | invalid => "error building NFA"
  | wordEdges =>
      "unsupported regex feature for DFAs: cannot build DFAs for regexes with Unicode word " ++
        "boundaries; switch to ASCII word boundaries, or heuristically enable Unicode word " ++
        "boundaries or use a different regex engine"

namespace Pattern

/-! ## Flags

The flags of a group decide about the rest of it: whether capital and small letters are the same,
whether characters are more than bytes, and whether blanks and comments say nothing. No other flag
decides whether a pattern is valid. -/

structure Mode where
  ignoreCase : Bool := false
  unicode : Bool := true
  spaced : Bool := false
deriving DecidableEq, Repr

def Mode.switch (mode : Mode) (flag : Char) (on : Bool) : Mode :=
  match flag with
  | 'i' => { mode with ignoreCase := on }
  | 'u' => { mode with unicode := on }
  | 'x' => { mode with spaced := on }
  | _ => mode

def dropSpaced (inComment : Bool) : List Char → List Char
  | [] => []
  | character :: rest =>
      if inComment then dropSpaced (character ≠ '\n') rest
      else if Text.isBlank character then dropSpaced false rest
      else if character = '#' then dropSpaced true rest
      else character :: rest

def Mode.skip (mode : Mode) (text : List Char) : List Char :=
  if mode.spaced then dropSpaced false text else text

/-- The character that a dash in a class is followed by. A comment behind the dash is looked
through, but only its sign is passed over. -/
def Mode.behindDash (mode : Mode) (text : List Char) : Option Char :=
  if mode.spaced then
    let start :=
      match text.dropWhile Text.isBlank with
      | '#' :: rest => rest.dropWhile Text.isBlank
      | start => start
    start.head? <|> text.head?
  else
    text.head?

/-- Reads flags up to the sign behind them. No flag may occur twice, and a minus, which switches the
flags behind it off, may not be the last of them. Answers with the flags that were read, latest
first, the mode they lead to, and what follows them. -/
def flags (mode : Mode) (read : List Char) (on : Bool) :
    List Char → Option (List Char × Mode × List Char)
  | [] => none
  | flag :: rest =>
      if flag = ':' || flag = ')' then
        if read.head? = some '-' then none else some (read, mode, flag :: rest)
      else if read.contains flag then none
      else if flag = '-' then flags mode (flag :: read) false rest
      else if ['i', 'm', 's', 'U', 'u', 'R', 'x'].contains flag then
        flags (mode.switch flag on) (flag :: read) on rest
      else none

/-! ## Single characters

One character or one escape stands for a character, for any character, for one of a kind or any
other, or for a place in the text. Any sign can be escaped, but a letter or a digit only if the
escape has a meaning. -/

inductive Atom where
  | literal (code : Nat) (isByte : Bool)
  | any
  | shorthand (negated : Bool)
  | edge
  | wordEdge
deriving DecidableEq, Repr

def Atom.ofChar (character : Char) : Atom := .literal character.toNat false

def Mode.admits (mode : Mode) : Atom → Bool
  | .literal code isByte =>
      if mode.unicode then !mode.ignoreCase else !(isByte && 0x7F < code)
  | .any => mode.unicode
  | .shorthand negated => !mode.unicode && !negated
  | .edge | .wordEdge => true

def Mode.admitsMember (mode : Mode) : Atom → Bool
  | .literal code _ => if mode.unicode then !mode.ignoreCase else code ≤ 0x7F
  | .shorthand negated => !mode.unicode && !negated
  | .any | .edge | .wordEdge => false

def numbered (mode : Mode) (isByte : Bool) : Nat → Nat → List Char → Option (Atom × List Char)
  | 0, code, text => if code.isValidChar then some (.literal code isByte, text) else none
  | count + 1, code, text =>
      match mode.skip text with
      | [] => none
      | digit :: rest =>
          match Text.digit? 16 digit with
          | some value => numbered mode isByte count (16 * code + value) rest
          | none => none

def escape (mode : Mode) : List Char → Option (Atom × List Char)
  | [] => none
  | letter :: rest =>
      match letter with
      | 'x' => numbered mode true 2 0 rest
      | 'u' => numbered mode false 4 0 rest
      | 'U' => numbered mode false 8 0 rest
      | 'd' | 's' | 'w' => some (.shorthand false, rest)
      | 'D' | 'S' | 'W' => some (.shorthand true, rest)
      | 'a' => some (.literal 0x07 false, rest)
      | 't' => some (.literal 0x09 false, rest)
      | 'n' => some (.literal 0x0A false, rest)
      | 'v' => some (.literal 0x0B false, rest)
      | 'f' => some (.literal 0x0C false, rest)
      | 'r' => some (.literal 0x0D false, rest)
      | 'A' | 'z' => some (.edge, rest)
      | 'b' | 'B' | '<' | '>' => some (.wordEdge, rest)
      | _ =>
          if letter.toNat ≤ 0x7F && !letter.isAlphanum then some (.ofChar letter, rest) else none

/-! ## Depth

Two parts or more in a row have a level of their own. -/

def depthLimit : Nat := 250

def rowDepth : List Nat → Nat
  | [] => 0
  | [depth] => depth
  | depths => depths.foldl max 0 + 1

/-! ## Classes

A class lists characters between brackets. Classes may be nested, and combined by operators that are
written as two equal signs. While a class is read it has the depth of what stands in front of its
latest operator, and those of the items behind it. Dashes at its start and a closing bracket that is
its first character stand for themselves. -/

structure Class where
  negated : Bool
  left : Option Nat := none
  items : List Nat := []
deriving DecidableEq, Repr

namespace Class

def add (current : Class) (depth : Nat) : Class := { current with items := depth :: current.items }

def depth (current : Class) : Nat :=
  match current.left with
  | none => rowDepth current.items
  | some left => max left (rowDepth current.items) + 1

def operate (current : Class) : Class := { current with left := some current.depth, items := [] }

end Class

def setNames : List String :=
  ["alnum", "alpha", "ascii", "blank", "cntrl", "digit", "graph", "lower", "print", "punct",
    "space", "upper", "word", "xdigit"]

def namedSet? : List Char → Option (Bool × List Char)
  | ':' :: rest =>
      let (negated, rest) :=
        match rest with
        | '^' :: rest => (true, rest)
        | rest => (false, rest)
      let name := rest.takeWhile (· ≠ ':')
      match rest.dropWhile (· ≠ ':') with
      | ':' :: ']' :: rest =>
          if setNames.contains (String.ofList name) then some (negated, rest) else none
      | _ => none
  | _ => none

def Mode.admitsSet (mode : Mode) (negated : Bool) : Bool :=
  if mode.unicode then !mode.ignoreCase else !negated

def dashes (mode : Mode) : Nat → Class → List Char → Class × List Char
  | turns + 1, found, '-' :: rest => dashes mode turns (found.add 0) (mode.skip rest)
  | _, found, text => (found, text)

def openClass (mode : Mode) (text : List Char) : Option (Class × List Char) := do
  let (negated, text) :=
    match mode.skip text with
    | '^' :: rest => (true, mode.skip rest)
    | text => (false, text)
  let (found, text) := dashes mode text.length { negated } text
  let (found, text) :=
    match found.items, text with
    | [], ']' :: rest => (found.add 0, rest)
    | _, text => (found, text)
  guard (found.items.isEmpty || mode.admitsMember (.ofChar '-'))
  return (found, text)

def memberAtom (mode : Mode) : List Char → Option (Atom × List Char)
  | [] => none
  | '\\' :: rest => escape mode rest
  | character :: rest => some (.ofChar character, rest)

def member (mode : Mode) (text : List Char) : Option (List Char) := do
  let (first, rest) ← memberAtom mode text
  guard (mode.admitsMember first)
  match mode.skip rest with
  | '-' :: behind =>
      if [some ']', some '-'].contains (mode.behindDash behind) then
        return '-' :: behind
      let (last, rest) ← memberAtom mode (mode.skip behind)
      guard (mode.admitsMember last)
      match first, last with
      | .literal first _, .literal last _ =>
          guard (first ≤ last)
          return rest
      | _, _ => failure
  | rest => return rest

/-- Reads a class up to its closing bracket, with the classes it lies in. Answers with its depth.
Each turn takes a character at least. -/
def classDepth (mode : Mode) : Nat → Class → List Class → List Char → Option (Nat × List Char)
  | 0, _, _, _ => none
  | turns + 1, inner, outer, text =>
      match mode.skip text with
      | [] => none
      | '[' :: rest =>
          match namedSet? rest with
          | some (negated, rest) => do
              guard (mode.admitsSet negated)
              classDepth mode turns (inner.add 0) outer rest
          | none => do
              let (nested, rest) ← openClass mode rest
              classDepth mode turns nested (inner :: outer) rest
      | ']' :: rest => do
          guard (mode.unicode || !inner.negated)
          match outer with
          | [] => return (inner.depth + 1, rest)
          | parent :: outer => classDepth mode turns (parent.add (inner.depth + 1)) outer rest
      | '&' :: '&' :: rest | '-' :: '-' :: rest | '~' :: '~' :: rest =>
          classDepth mode turns inner.operate outer rest
      | text => do
          let rest ← member mode text
          classDepth mode turns (inner.add 0) outer rest

/-! ## Groups

While a group is read it has the depths of the alternatives that are complete, and the parts of the
one that is being read, latest first. A group goes on in the mode it was in before the groups inside
it. Flags may stand in parentheses with no pattern behind them, and cannot be repeated. -/

structure Part where
  depth : Nat
  isRepeatable : Bool := true
deriving DecidableEq, Repr

structure Group where
  complete : List Nat := []
  parts : List Part := []
deriving DecidableEq, Repr

namespace Group

def add (group : Group) (part : Part) : Group := { group with parts := part :: group.parts }

def rowDepth (group : Group) : Nat := Pattern.rowDepth (group.parts.map (·.depth))

def alternate (group : Group) : Group := { complete := group.rowDepth :: group.complete }

def depth (group : Group) : Nat := Pattern.rowDepth (group.rowDepth :: group.complete)

def repeatLast (group : Group) : Option Group :=
  match group.parts with
  | ⟨depth, true⟩ :: parts => some { group with parts := ⟨depth + 1, true⟩ :: parts }
  | _ => none

end Group

structure State where
  mode : Mode := {}
  group : Group := {}
  outer : List (Mode × Group) := []
  names : List (List Char) := []
  asksWordEdges : Bool := false
deriving DecidableEq, Repr

namespace State

def add (state : State) (part : Part) : State := { state with group := state.group.add part }

def take (state : State) (atom : Atom) : Option State :=
  if state.mode.admits atom then
    let asks := state.mode.unicode && atom = .wordEdge
    some { state.add ⟨0, true⟩ with asksWordEdges := state.asksWordEdges || asks }
  else
    none

def openGroup (state : State) (mode : Mode) : State :=
  { state with mode, group := {}, outer := (state.mode, state.group) :: state.outer }

def closeGroup (state : State) : Option State :=
  match state.outer with
  | [] => none
  | (mode, group) :: outer =>
      some { state with mode, group := group.add ⟨state.group.depth + 1, true⟩, outer }

end State

def isName : List Char → Bool
  | [] => false
  | first :: others =>
      (first = '_' || Text.isAlphabetic first) &&
        others.all fun character =>
          ['_', '.', '[', ']'].contains character || Text.isAlphanumeric character

def namedGroup (state : State) (text : List Char) : Option (State × List Char) := do
  let name := text.takeWhile (· ≠ '>')
  guard (isName name && !state.names.contains name)
  match text.dropWhile (· ≠ '>') with
  | _ :: rest => return ({ state.openGroup state.mode with names := name :: state.names }, rest)
  | [] => failure

/-- Reads what follows an opening parenthesis. Flags may stand there with no pattern behind them. -/
def group (state : State) (text : List Char) : Option (State × List Char) := do
  match text with
  | '?' :: 'P' :: '<' :: rest | '?' :: '<' :: rest => namedGroup state rest
  | '?' :: rest =>
      let (read, mode, rest) ← flags state.mode [] true rest
      match rest with
      | ':' :: rest => return (state.openGroup mode, rest)
      | rest =>
          guard (!read.isEmpty)
          return ({ state with mode }.add ⟨0, false⟩, rest.drop 1)
  | text => return (state.openGroup state.mode, text)

def part (state : State) : List Char → Option (State × List Char)
  | [] => none
  | first :: rest =>
      match first with
      | '(' => group state (state.mode.skip rest)
      | ')' => do return (← state.closeGroup, rest)
      | '|' => some ({ state with group := state.group.alternate }, rest)
      | '[' => do
          let (found, rest) ← openClass state.mode rest
          let (depth, rest) ← classDepth state.mode (rest.length + 1) found [] rest
          return (state.add ⟨depth, true⟩, rest)
      | '?' | '*' | '+' => do
          let group ← state.group.repeatLast
          return ({ state with group }, if rest.head? = some '?' then rest.drop 1 else rest)
      | '\x7b' => none
      | '\\' => do
          let (atom, rest) ← escape state.mode rest
          return (← state.take atom, rest)
      | '.' => do return (← state.take .any, rest)
      | '^' | '$' => do return (← state.take .edge, rest)
      | character => do return (← state.take (.ofChar character), rest)

def parts : Nat → State → List Char → Option State
  | turns, state, text =>
      match state.mode.skip text, turns with
      | [], _ => some state
      | _, 0 => none
      | text, turns + 1 => do
          let (state, rest) ← part state text
          parts turns state rest

def check (text : List Char) : Except PatternError Unit :=
  match parts text.length {} text with
  | some state =>
      if !state.outer.isEmpty || depthLimit < state.group.depth then .error .invalid
      else if state.asksWordEdges then .error .wordEdges
      else .ok ()
  | none => .error .invalid

end Pattern

end TerminalSession.Log
