/-! # Keys and their codes

A terminal delivers numbers. A character is its own code point; a special key is a number above all
code points, so that no character can be taken for one. The function keys, the first of them
numbered zero, have their codes above those of the other special keys. A code that is neither shows
as the replacement character. -/

namespace TerminalSession

abbrev Code := Nat

def Code.specialBase : Code := 0x110000

def Code.functionBase : Code := specialBase + 0x100

def Code.isSpecial (code : Code) : Bool := specialBase ≤ code

def Code.character (code : Code) : Char :=
  if code.isValidChar then Char.ofNat code else '\uFFFD'

inductive SpecialKey where
  | down | up | left | right | home | ending
  | backspace | delete | insert | pageDown | pageUp | enter | backTab
  | resize
  | function (number : UInt8)
deriving DecidableEq, Repr

namespace SpecialKey

def code : SpecialKey → Code
  | function number => Code.functionBase + number.toNat
  | down => Code.specialBase + 0o002
  | up => Code.specialBase + 0o003
  | left => Code.specialBase + 0o004
  | right => Code.specialBase + 0o005
  | home => Code.specialBase + 0o006
  | backspace => Code.specialBase + 0o007
  | delete => Code.specialBase + 0o112
  | insert => Code.specialBase + 0o113
  | pageDown => Code.specialBase + 0o122
  | pageUp => Code.specialBase + 0o123
  | enter => Code.specialBase + 0o127
  | backTab => Code.specialBase + 0o141
  | ending => Code.specialBase + 0o150
  | resize => Code.specialBase + 0o232

def named : List SpecialKey :=
  [down, up, left, right, home, ending, backspace, delete, insert, pageDown, pageUp, enter,
    backTab, resize]

def functions : List SpecialKey :=
  (List.range 256).map fun number => function (UInt8.ofNat number)

def all : List SpecialKey := named ++ functions

def label : SpecialKey → String
  | down => "Down"
  | up => "Up"
  | left => "Left"
  | right => "Right"
  | home => "Home"
  | ending => "End"
  | backspace => "Backspace"
  | delete => "Delete"
  | insert => "Insert"
  | pageDown => "PageDown"
  | pageUp => "PageUp"
  | enter => "Enter"
  | backTab => "BackTab"
  | resize => "Resize"
  | function number => "F(" ++ toString number.toNat ++ ")"

end SpecialKey

inductive Key where
  | char (character : Char)
  | special (key : SpecialKey)
deriving DecidableEq, Repr

def Key.code : Key → Code
  | char character => character.toNat
  | special key => key.code

/-! Which codes a terminal uses for special keys, the latest entry first. Of two entries for one
code the later one counts, and what a table does not know is a character. -/

structure KeyTable where
  entries : List (Code × SpecialKey)
deriving DecidableEq, Repr, Inhabited

namespace KeyTable

def empty : KeyTable := ⟨[]⟩

def insert (table : KeyTable) (code : Code) (key : SpecialKey) : KeyTable :=
  ⟨(code, key) :: table.entries.filter (·.1 ≠ code)⟩

def ofList (entries : List (Code × SpecialKey)) : KeyTable :=
  entries.foldl (fun table (code, key) => table.insert code key) empty

def standard : KeyTable := ofList (SpecialKey.all.map fun key => (key.code, key))

def lookup (table : KeyTable) (code : Code) : Option SpecialKey := table.entries.lookup code

def size (table : KeyTable) : Nat := table.entries.length

def isEmpty (table : KeyTable) : Bool := table.entries.isEmpty

def decode (table : KeyTable) (code : Code) : Key :=
  match table.lookup code with
  | some key => .special key
  | none => .char code.character

end KeyTable

end TerminalSession
