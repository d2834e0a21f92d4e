import TerminalSession.Session

/-! # What a command needs

A requirement is something that must hold in a session before a command may run. Each has one way to
fail, and its refusal says which. That a name is free matters only where names must be unique, and
only `sessionInactive` can hold where there is no session. -/

namespace TerminalSession

inductive Requirement where
  | sessionActive
  | sessionInactive
  | windowExists (name : String)
  | colorExists (name : String)
  | windowNameFree (name : String)
  | colorNameFree (name : String)
  | currentWindow (name : String)
  | inputMode (shape : ReadShape)
deriving DecidableEq, Repr

namespace Requirement

def checkActive (requirement : Requirement) (session : Session) : Except Refusal Unit :=
  match requirement with
  | sessionActive => .ok ()
  | sessionInactive => .error .alreadyActive
  | windowExists name =>
      if session.hasWindow name then .ok () else .error (.unknownWindow name)
  | colorExists name => (session.color name).map fun _ => ()
  | windowNameFree name =>
      if session.options.names = .unique && session.hasWindow name then
        .error (.duplicateWindow name)
      else
        .ok ()
  | colorNameFree name =>
      if session.options.names = .unique && session.hasColor name then
        .error (.duplicateColor name)
      else
        .ok ()
  | currentWindow name =>
      if session.currentWindow.name = name then .ok ()
      else .error (.wrongWindow name session.currentWindow.name)
  | inputMode shape =>
      if session.shape = shape then .ok ()
      else .error (.wrongShape session.currentWindow.name shape session.shape)

def check (requirement : Requirement) (phase : Phase) : Except Refusal Unit :=
  match requirement, phase with
  | sessionInactive, .inactive => .ok ()
  | sessionInactive, .active _ => .error .alreadyActive
  | _, .inactive => .error .notActive
  | requirement, .active session => requirement.checkActive session

def holds (requirement : Requirement) (phase : Phase) : Bool := (requirement.check phase).isOk

def checkAll (requirements : List Requirement) (phase : Phase) : Except Refusal Unit :=
  requirements.forM (·.check phase)

def text : Requirement → String
  | sessionActive => "session active"
  | sessionInactive => "session inactive"
  | windowExists name => "window '" ++ name ++ "' exists"
  | colorExists name => "color '" ++ name ++ "' exists"
  | windowNameFree name => "window name '" ++ name ++ "' free"
  | colorNameFree name => "color name '" ++ name ++ "' free"
  | currentWindow name => "current window is '" ++ name ++ "'"
  | inputMode shape =>
      "input mode no_delay=" ++ toString shape.noDelay ++ " keypad=" ++ toString shape.keypad

end Requirement

end TerminalSession
