import TerminalSession.Key

/-! # From key presses to codes

A keyboard reports a key and the modifiers that were held. A window whose keypad flag is on gets one
code for a special key; else it gets the characters that a classic terminal would send, one code
each. -/

namespace TerminalSession

structure Modifiers where
  shift : Bool := false
  control : Bool := false
  alt : Bool := false
  superKey : Bool := false
  hyperKey : Bool := false
  metaKey : Bool := false
deriving DecidableEq, Repr, Inhabited

def Modifiers.isEmpty (held : Modifiers) : Bool :=
  !(held.shift || held.control || held.alt || held.superKey || held.hyperKey || held.metaKey)

inductive KeyCap where
  | char (character : Char)
  | function (number : UInt8)
  | backspace | enter | left | right | up | down | home | ending | pageUp | pageDown
  | tab | backTab | delete | insert | escape
  | silent
deriving DecidableEq, Repr

structure KeyPress where
  cap : KeyCap
  held : Modifiers := {}
deriving DecidableEq, Repr

namespace KeyPress

def escape : Char := Char.ofNat 0x1B

/-! A window whose keypad flag is on is told of special keys by one code each. -/

def special? (press : KeyPress) : Option SpecialKey :=
  match press.cap with
  | .up => some .up
  | .down => some .down
  | .left => some .left
  | .right => some .right
  | .home => some .home
  | .ending => some .ending
  | .pageUp => some .pageUp
  | .pageDown => some .pageDown
  | .insert => some .insert
  | .delete => some .delete
  | .backspace => some .backspace
  | .backTab => some .backTab
  | .tab => if press.held.shift then some .backTab else none
  | .function number => some (.function number)
  | .char _ | .enter | .escape | .silent => none

/-! The control key folds a typed character, and the alternate key puts an escape in front of it. -/

def controlOf? (character : Char) : Option Char :=
  let character := character.toLower
  if 'a' ≤ character && character ≤ 'z' then
    some (Char.ofNat (character.toNat - 'a'.toNat + 1))
  else
    match character with
    | '@' | ' ' => some (Char.ofNat 0x00)
    | '[' => some escape
    | '\\' => some (Char.ofNat 0x1C)
    | ']' => some (Char.ofNat 0x1D)
    | '^' | '~' => some (Char.ofNat 0x1E)
    | '_' | '?' => some (Char.ofNat 0x1F)
    | _ => if character.toNat = 0x60 then some (Char.ofNat 0x00) else none

def typed (character : Char) (held : Modifiers) : List Char :=
  let folded := if held.control then (controlOf? character).getD character else character
  if held.alt then [escape, folded] else [folded]

/-! Held modifiers come second in a control sequence, so they force a first parameter. -/

def modifierParameter? (held : Modifiers) : Option Nat :=
  let weight :=
    (if held.shift then 1 else 0) + (if held.alt then 2 else 0) + (if held.control then 4 else 0)
  if weight = 0 then none else some (1 + weight)

def controlSequence (parameter : Option Nat) (last : Char) (held : Modifiers) : List Char :=
  let parameters :=
    match parameter, modifierParameter? held with
    | none, none => ""
    | some first, none => toString first
    | first, some second => toString (first.getD 1) ++ ";" ++ toString second
  escape :: '[' :: parameters.toList ++ [last]

def functionParameters : List Nat := [15, 17, 18, 19, 20, 21, 23, 24]

/-- What a classic terminal sends for the function keys. The first four have a form of their own
while nothing is held, and beyond the twelfth there are none. -/
def functionSequence (number : Nat) (held : Modifiers) : List Char :=
  if 1 ≤ number && number ≤ 4 then
    let last := Char.ofNat ('O'.toNat + number)
    if held.isEmpty then [escape, 'O', last] else controlSequence (some 1) last held
  else
    match functionParameters[number - 5]? with
    | some parameter =>
        if 5 ≤ number then controlSequence (some parameter) '~' held else []
    | none => []

def sequence (press : KeyPress) : List Char :=
  match press.cap with
  | .char character => typed character press.held
  | .enter => ['\n']
  | .escape => [escape]
  | .backspace =>
      if press.held.alt then [escape, Char.ofNat 0x7F] else [Char.ofNat 0x7F]
  | .backTab => controlSequence none 'Z' {}
  | .tab => if press.held.shift then controlSequence none 'Z' {} else ['\t']
  | .up => controlSequence none 'A' press.held
  | .down => controlSequence none 'B' press.held
  | .right => controlSequence none 'C' press.held
  | .left => controlSequence none 'D' press.held
  | .home => controlSequence none 'H' press.held
  | .ending => controlSequence none 'F' press.held
  | .insert => controlSequence (some 2) '~' press.held
  | .delete => controlSequence (some 3) '~' press.held
  | .pageUp => controlSequence (some 5) '~' press.held
  | .pageDown => controlSequence (some 6) '~' press.held
  | .function number => functionSequence number.toNat press.held
  | .silent => []

def codes (press : KeyPress) (keypad : Bool) : List Code :=
  match keypad, press.special? with
  | true, some key => [key.code]
  | _, _ => press.sequence.map Char.toNat

end KeyPress

end TerminalSession
