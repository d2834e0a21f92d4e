import TerminalSession.Key

/-! # What a read returns

Two flags of a window decide the shape of what it delivers: whether a read waits for a key, and
whether special keys (the keypad) are told apart from characters. A program may insist on a shape
before it reads. -/

namespace TerminalSession

inductive ReadShape where
  | char | key | maybeChar | maybeKey
deriving DecidableEq, Repr

namespace ReadShape

def all : List ReadShape := [char, key, maybeChar, maybeKey]

def ofFlags (noDelay keypad : Bool) : ReadShape :=
  match noDelay, keypad with
  | false, false => char
  | false, true => key
  | true, false => maybeChar
  | true, true => maybeKey

def noDelay : ReadShape → Bool
  | char | key => false
  | maybeChar | maybeKey => true

def keypad : ReadShape → Bool
  | char | maybeChar => false
  | key | maybeKey => true

theorem ofFlags_flags (shape : ReadShape) : ofFlags shape.noDelay shape.keypad = shape := by
  cases shape <;> rfl

def label : ReadShape → String
  | char => "Char"
  | key => "Key"
  | maybeChar => "MaybeChar"
  | maybeKey => "MaybeKey"

@[reducible] def Value : ReadShape → Type
  | char => Char
  | key => Key
  | maybeChar => Option Char
  | maybeKey => Option Key

/-- What the code a terminal delivered means to a read of this shape. A read that waits has no
answer when the terminal delivers nothing. -/
def decode (shape : ReadShape) (delivered : Option Code) (keys : KeyTable) :
    Option shape.Value :=
  match shape with
  | char => delivered.map Code.character
  | key => delivered.map keys.decode
  | maybeChar => some (delivered.map Code.character)
  | maybeKey => some (delivered.map keys.decode)

end ReadShape

inductive Input where
  | char (character : Char)
  | key (key : Key)
  | maybeChar (character : Option Char)
  | maybeKey (key : Option Key)
deriving DecidableEq, Repr

namespace Input

def shape : Input → ReadShape
  | char _ => .char
  | key _ => .key
  | maybeChar _ => .maybeChar
  | maybeKey _ => .maybeKey

def value : (input : Input) → input.shape.Value
  | char character => character
  | key pressed => pressed
  | maybeChar character => character
  | maybeKey pressed => pressed

def pressed? : Input → Option Key
  | char character => some (.char character)
  | key pressed => some pressed
  | maybeChar character => character.map .char
  | maybeKey pressed => pressed

end Input

namespace ReadShape

def wrap (shape : ReadShape) (value : shape.Value) : Input :=
  match shape with
  | char => .char value
  | key => .key value
  | maybeChar => .maybeChar value
  | maybeKey => .maybeKey value

theorem wrap_value (input : Input) : input.shape.wrap input.value = input := by
  cases input <;> rfl

theorem shape_wrap (shape : ReadShape) (value : shape.Value) :
    (shape.wrap value).shape = shape := by
  cases shape <;> rfl

def resolve (shape : ReadShape) (delivered : Option Code) (keys : KeyTable) : Option Input :=
  (shape.decode delivered keys).map shape.wrap

end ReadShape

end TerminalSession
