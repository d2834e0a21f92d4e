import TerminalSession.Listing
import TerminalSession.Requirement

/-! # Commands

Every terminal operation is one command. A command knows what it requires of the session and how it
changes the session; carrying it out is not its work. Starting and ending a session stand apart
from the actions inside one. -/

namespace TerminalSession

inductive Drawing where
  | char (character : Char)
  | text (text : String)
  | line (text : String)
  | horizontalLine (character : Char) (length : Coordinate)
  | verticalLine (character : Char) (length : Coordinate)
  | move (position : Position)
deriving DecidableEq, Repr

/-! Where an action names no window it concerns the current one. `getInput` reads with whatever
shape that window has, `readAs` insists on one, and `require` insists on something without touching
the terminal. -/

inductive Action where
  | addWindow (name : String) (position : Position) (size : Size) (border : Option Border)
  | setWindow (name : String)
  | unsetWindow
  | addColor (name : String) (foreground background : Color)
  | changeAttribute (operation : AttributeOperation) (look : Attribute)
  | clear
  | erase
  | refresh
  | draw (drawing : Drawing)
  | getPosition
  | getSize
  | setSize (size : Size)
  | setEcho (on : Bool)
  | setCbreak (on : Bool)
  | setKeypad (on : Bool)
  | setNoDelay (on : Bool)
  | setCursor (visibility : CursorVisibility)
  | getInput
  | readAs (shape : ReadShape)
  | require (requirement : Requirement)
deriving DecidableEq, Repr

inductive Command where
  | init (options : SessionOptions)
  | deinit
  | act (action : Action)
deriving DecidableEq, Repr

inductive Outcome where
  | unit
  | position (position : Position)
  | size (size : Size)
  | input (input : Input)
deriving DecidableEq, Repr

namespace Outcome

def position? : Outcome → Option Position
  | position found => some found
  | _ => none

def size? : Outcome → Option Size
  | size found => some found
  | _ => none

def input? : Outcome → Option Input
  | input found => some found
  | _ => none

end Outcome

def Attribute.requirements : Attribute → List Requirement
  | .color registered => [.colorExists registered.name]
  | _ => []

def Border.requirements (border : Border) : List Requirement :=
  border.color.toList.map fun color => .colorExists color.name

namespace Action

def requirements : Action → List Requirement
  | addWindow name _ _ border =>
      .windowNameFree name :: border.toList.flatMap Border.requirements
  | setWindow name => [.windowExists name]
  | unsetWindow => [.windowExists Window.defaultName]
  | addColor name _ _ => [.colorNameFree name]
  | changeAttribute _ look => look.requirements
  | readAs shape => [.inputMode shape]
  | require requirement => [requirement]
  | _ => []

def update (action : Action) (session : Session) : Except Refusal Session :=
  match action with
  | addWindow name _ _ _ => session.addWindow name
  | setWindow name => session.setWindow name
  | unsetWindow => session.unsetWindow
  | addColor name _ _ => session.addColor name
  | setEcho on => .ok (session.setEcho on)
  | setCbreak on => .ok (session.setCbreak on)
  | setKeypad on => .ok (session.setKeypad on)
  | setNoDelay on => .ok (session.setNoDelay on)
  | _ => .ok session

def isTransition : Action → Bool
  | addWindow .. | setWindow _ | unsetWindow | addColor .. => true
  | setEcho _ | setCbreak _ | setKeypad _ | setNoDelay _ => true
  | _ => false

end Action

def Drawing.listing : Drawing → String
  | .char character => Text.tagged "Char" [Text.quotedChar character]
  | .text content => Text.tagged "Str" [Text.quoted content]
  | .line content => Text.tagged "Line" [Text.quoted content]
  | .horizontalLine character length =>
      Text.labelled "HLine" [("ch", Text.quotedChar character), ("len", toString length)]
  | .verticalLine character length =>
      Text.labelled "VLine" [("ch", Text.quotedChar character), ("len", toString length)]
  | .move position => Text.tagged "Move" [position.text]

def AttributeOperation.verb : AttributeOperation → String
  | .set => "set_attr"
  | .enable => "enable_attr"
  | .disable => "disable_attr"

def Action.text : Action → String
  | .addWindow name _ _ _ => "add_window(" ++ name ++ ")"
  | .setWindow name => "set_window(" ++ name ++ ")"
  | .unsetWindow => "unset_window"
  | .addColor name _ _ => "add_color(" ++ name ++ ")"
  | .changeAttribute operation look => operation.verb ++ "(" ++ look.text ++ ")"
  | .clear => "clear"
  | .erase => "erase"
  | .refresh => "refresh"
  | .draw drawing => "output(" ++ drawing.listing ++ ")"
  | .getPosition => "get_pos"
  | .getSize => "get_size"
  | .setSize size => "set_size(" ++ toString size.rows ++ "x" ++ toString size.cols ++ ")"
  | .setEcho on => "set_echo(" ++ toString on ++ ")"
  | .setCbreak on => "set_cbreak(" ++ toString on ++ ")"
  | .setKeypad on => "set_keypad(" ++ toString on ++ ")"
  | .setNoDelay on => "set_no_delay(" ++ toString on ++ ")"
  | .setCursor visibility => "set_cursor(" ++ visibility.label ++ ")"
  | .getInput => "get_input"
  | .readAs shape => "read_as(" ++ shape.label ++ ")"
  | .require requirement => "require(" ++ requirement.text ++ ")"

namespace Command

def requirements : Command → List Requirement
  | init _ => [.sessionInactive]
  | deinit => [.sessionActive]
  | act action => .sessionActive :: action.requirements

def check (command : Command) (phase : Phase) : Except Refusal Unit :=
  Requirement.checkAll command.requirements phase

/-- The phase after the command, or the first of its requirements that does not hold. -/
def apply (command : Command) (phase : Phase) : Except Refusal Phase := do
  command.check phase
  match command with
  | init options => phase.init options
  | deinit => phase.deinit
  | act action => phase.mapActive action.update

def isTransition : Command → Bool
  | init _ | deinit => true
  | act action => action.isTransition

def text : Command → String
  | init _ => "init"
  | deinit => "deinit"
  | act action => action.text

end Command

end TerminalSession
