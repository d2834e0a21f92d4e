import TerminalSession.Failure
import TerminalSession.Focus
import TerminalSession.Style

/-! # The state of a session

What a terminal session is, as far as commands are checked against it: its windows and their flags,
the names of its colors, and the way input is handled: with `cbreak` keys are delivered one by one
instead of line by line, and with `echo` typed characters are shown. Windows and colors are kept
newest first. Nothing here touches a terminal. -/

namespace TerminalSession

structure Window where
  name : String
  keypad : Bool := true
  noDelay : Bool := false
deriving DecidableEq, Repr

def Window.shape (window : Window) : ReadShape := .ofFlags window.noDelay window.keypad

def Window.defaultName : String := "default"

/-! A permissive session may use a name twice, and the name means the first match. Otherwise a name
that is in use cannot be added again. -/

inductive NamePolicy where
  | permissive
  | unique
deriving DecidableEq, Repr, Inhabited

structure SessionOptions where
  names : NamePolicy := .permissive
deriving DecidableEq, Repr, Inhabited

structure Session where
  cbreak : Bool
  echo : Bool
  windows : Focus Window
  colors : List String
  options : SessionOptions
deriving DecidableEq, Repr

namespace Session

def fresh (options : SessionOptions) : Session where
  cbreak := true
  echo := false
  windows := .single { name := Window.defaultName }
  colors := []
  options

def currentWindow (session : Session) : Window := session.windows.current

def shape (session : Session) : ReadShape := session.currentWindow.shape

def colorNames (session : Session) : List String := session.colors.reverse

def findWindow (session : Session) (name : String) : Option Nat :=
  session.windows.find? (·.name = name)

def hasWindow (session : Session) (name : String) : Bool :=
  session.windows.toList.any (·.name = name)

def hasColor (session : Session) (name : String) : Bool := session.colors.contains name

/-- Looks a color up once, so that its name can be used from then on. -/
def color (session : Session) (name : String) : Except Refusal RegisteredColor :=
  if session.hasColor name then .ok ⟨name⟩ else .error (.unknownColor name)

def isWellFormed (session : Session) : Bool :=
  !session.windows.toList.isEmpty && session.windows.index < session.windows.toList.length

/-! A new window does not become the current one, and a registered color stays for the rest of the
session. -/

def addWindow (session : Session) (name : String) : Except Refusal Session :=
  if session.options.names = .unique && session.hasWindow name then
    .error (.duplicateWindow name)
  else
    .ok { session with windows := session.windows.push { name } }

def setWindow (session : Session) (name : String) : Except Refusal Session :=
  match session.windows.select? (·.name = name) with
  | some windows => .ok { session with windows }
  | none => .error (.unknownWindow name)

def unsetWindow (session : Session) : Except Refusal Session :=
  session.setWindow Window.defaultName

def addColor (session : Session) (name : String) : Except Refusal Session :=
  if session.options.names = .unique && session.hasColor name then
    .error (.duplicateColor name)
  else
    .ok { session with colors := name :: session.colors }

def setEcho (session : Session) (on : Bool) : Session := { session with echo := on }

def setCbreak (session : Session) (on : Bool) : Session := { session with cbreak := on }

def setKeypad (session : Session) (on : Bool) : Session :=
  { session with windows := session.windows.modify ({ · with keypad := on }) }

def setNoDelay (session : Session) (on : Bool) : Session :=
  { session with windows := session.windows.modify ({ · with noDelay := on }) }

theorem isWellFormed_eq_true (session : Session) : session.isWellFormed = true := by
  simp [isWellFormed, Focus.toList, Focus.index]

end Session

inductive Phase where
  | inactive
  | active (session : Session)
deriving DecidableEq, Repr

namespace Phase

instance : Inhabited Phase := ⟨inactive⟩

def isActive : Phase → Bool
  | inactive => false
  | active _ => true

def session : Phase → Except Refusal Session
  | inactive => .error .notActive
  | active session => .ok session

def init (phase : Phase) (options : SessionOptions) : Except Refusal Phase :=
  match phase with
  | inactive => .ok (active (.fresh options))
  | active _ => .error .alreadyActive

def deinit : Phase → Except Refusal Phase
  | inactive => .error .notActive
  | active _ => .ok inactive

def mapActive (phase : Phase) (change : Session → Except Refusal Session) :
    Except Refusal Phase :=
  match phase with
  | inactive => .error .notActive
  | active session => (change session).map active

end Phase

end TerminalSession
