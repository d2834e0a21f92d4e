import TerminalSession.Log
import TerminalSession.Log.Pattern

/-! # Directives for a log

A directive says up to which level entries are written. It is a level, a target, or a target and a
level divided by an equals sign. Between brackets in front of the equals sign it may be restricted
to work in a span of some name, and in braces inside them to entries with some field. -/

/-! ## Places in a text

A place in a text can be told by the number of bytes in front of it. -/

namespace TerminalSession.Text

def dropBytes : Nat → List Char → List Char
  | 0, text => text
  | _ + 1, [] => []
  | bytes + 1, character :: rest => dropBytes (bytes + 1 - character.utf8Size) rest
termination_by _ text => text.length

def takeBytes (bytes : Nat) : List Char → List Char
  | [] => []
  | character :: rest =>
      if character.utf8Size ≤ bytes then
        character :: takeBytes (bytes - character.utf8Size) rest
      else
        []

def slice (first last : Nat) (text : List Char) : List Char :=
  takeBytes (last - first) (dropBytes first text)

def located (place : Nat) : List Char → List (Nat × Char)
  | [] => []
  | character :: rest => (place, character) :: located (place + character.utf8Size) rest

end TerminalSession.Text

namespace TerminalSession.Log

/-! A threshold is a number or a word, in any mix of capital and small letters: everything up to a
level, or nothing. -/

abbrev Threshold := Option Level

namespace Threshold

def off : Threshold := none

def admits (threshold : Threshold) (level : Level) : Bool :=
  match threshold with
  | none => false
  | some most => level.verbosity ≤ most.verbosity

def all : List Threshold :=
  [off, some .error, some .warn, some .info, some .debug, some .trace]

def name : Threshold → String
  | none => "OFF"
  | some level => level.label

def number? (text : List Char) : Option Nat :=
  let digits :=
    match text with
    | '+' :: rest => rest
    | text => text
  if digits.isEmpty || !digits.all Char.isDigit then none
  else some (digits.foldl (fun number digit => 10 * number + (digit.toNat - '0'.toNat)) 0)

def ofText? (text : List Char) : Option Threshold :=
  match number? text with
  | some number => all[number]?
  | none => all.find? fun threshold => threshold.name.toList = text.map Char.toUpper

end Threshold

inductive DirectiveError where
  | malformed
  | unknownLevel
  | field (error : PatternError)
deriving DecidableEq, Repr

def DirectiveError.message : DirectiveError → String
  | malformed => "invalid filter directive"
  | unknownLevel =>
      "error parsing level filter: expected one of \"off\", \"error\", \"warn\", \"info\", " ++
        "\"debug\", \"trace\", or a number 0-5"
  | field error => "invalid field filter: " ++ error.message

/-! What is asked of a field may be a value, which is a number or a pattern and ends at the next
equals sign. Unlike a pattern a number may start with a plus sign. -/

structure FieldTest where
  name : List Char
  asksValue : Bool := false
deriving DecidableEq, Repr

namespace FieldTest

def isExponent : List Char → Bool
  | [] => true
  | letter :: rest =>
      let digits := if ['+', '-'].contains (rest.head?.getD '0') then rest.drop 1 else rest
      letter.toLower = 'e' && !digits.isEmpty && digits.all Char.isDigit

def isNumber (text : List Char) : Bool :=
  let text := if ['+', '-'].contains (text.head?.getD '0') then text.drop 1 else text
  let whole := text.takeWhile Char.isDigit
  let rest := text.dropWhile Char.isDigit
  let (fraction, rest) :=
    match rest with
    | '.' :: rest => (rest.takeWhile Char.isDigit, rest.dropWhile Char.isDigit)
    | rest => ([], rest)
  ["inf", "infinity", "nan"].contains (String.ofList (text.map Char.toLower)) ||
    !(whole ++ fraction).isEmpty && isExponent rest

def parse (text : List Char) : Except DirectiveError FieldTest :=
  let name := text.takeWhile (· ≠ '=')
  match text.dropWhile (· ≠ '=') with
  | [] => .ok { name }
  | _ :: behind =>
      let value := behind.takeWhile (· ≠ '=')
      match if isNumber value then .ok () else Pattern.check value with
      | .ok _ => .ok { name, asksValue := true }
      | .error error => .error (.field error)

end FieldTest

structure Directive where
  target : Option (List Char) := none
  inSpan : Bool := false
  fields : List FieldTest := []
  threshold : Threshold
deriving DecidableEq, Repr

namespace Directive

def standard : Directive := { threshold := some .error }

def level (text : List Char) : Except DirectiveError Threshold :=
  if text.isEmpty then .ok (some .trace)
  else
    match Threshold.ofText? text with
    | some threshold => .ok threshold
    | none => .error .unknownLevel

def bare (text : List Char) : Directive :=
  match Threshold.ofText? text with
  | some threshold => { threshold }
  | none => { target := some text, threshold := some .trace }

def canStart (character : Char) : Bool :=
  ['-', ':', '_'].contains character || Text.isAlphanumeric character

/-! A directive is taken apart at its signs. They are looked for in the text without the blank
characters around it, but the parts between them are taken from the same places of the text as it
was written. -/

def ending (text : List Char) (found : Directive) :
    List (Nat × Char) → Except DirectiveError Directive
  | [] => .ok found
  | (place, '=') :: _ => do
      return { found with threshold := ← level (Text.dropBytes (place + 1) text) }
  | _ => .error .malformed

def restriction (text : List Char) (target : Option (List Char)) (start : Nat)
    (signs : List (Nat × Char)) : Except DirectiveError Directive :=
  let found : Directive := { target, threshold := some .trace }
  match signs.dropWhile fun (_, sign) => sign ≠ ']' && sign ≠ '\x7b' with
  | (_, ']') :: rest => ending text { found with inSpan := true } rest
  | (place, _) :: rest =>
      match rest.dropWhile fun (_, sign) => sign ≠ '\x7d' with
      | (last, _) :: rest => do
          let field := Text.slice (place + 1) last text
          if field.isEmpty then throw .malformed
          let test ← FieldTest.parse field
          match rest with
          | (_, ']') :: rest =>
              let inSpan := !(Text.slice start place text).isEmpty
              ending text { found with inSpan, fields := [test] } rest
          | _ => throw .malformed
      | [] => .error .malformed
  | [] => .error .malformed

def parse (text : List Char) : Except DirectiveError Directive :=
  match Text.located 0 (Text.trim text) with
  | [] => .error .malformed
  | (place, '[') :: rest => restriction text none (place + 1) rest
  | (_, first) :: rest =>
      if !canStart first then .error .malformed
      else
        match rest.dropWhile fun (_, sign) => sign ≠ '=' && sign ≠ '[' with
        | [] => .ok (bare text)
        | (place, '=') :: _ => do
            let threshold ← level (Text.dropBytes (place + 1) text)
            return { target := some (Text.slice 0 place text), threshold }
        | (place, _) :: rest =>
            restriction text (some (Text.slice 0 place text)) (place + 1) rest

def entryField : List Char := "message".toList

/-- A directive is about an entry from this source. No entry is written in a span, or has a field
with a value that could be asked for. -/
def concerns (directive : Directive) (source : Source) : Bool :=
  !directive.inSpan &&
    directive.fields.all (fun test => !test.asksValue && test.name = entryField) &&
    match directive.target with
    | none => true
    | some target => target.isPrefixOf source.label.toList

/-- How much a directive says: any target says more than none, and a longer one more than a shorter
one. -/
def specificity (directive : Directive) : Nat :=
  match directive.target with
  | none => 0
  | some target => target.length + 1

/-- Whether a directive says at least as much as another. With targets alike, fields decide. -/
def isAsSpecific (directive other : Directive) : Bool :=
  other.specificity < directive.specificity ||
    other.specificity = directive.specificity &&
      other.fields.length ≤ directive.fields.length

end Directive

end TerminalSession.Log
