import TerminalSession.Input

/-! # Why something was not done

A command that does not fit the session is refused before the terminal hears of it. A command that
the terminal could not carry out is a fault. -/

namespace TerminalSession

inductive Refusal where
  | notActive
  | alreadyActive
  | unknownWindow (name : String)
  | unknownColor (name : String)
  | duplicateWindow (name : String)
  | duplicateColor (name : String)
  | wrongWindow (expected actual : String)
  | wrongShape (window : String) (expected actual : ReadShape)
  | unexpectedOutcome (command expected : String)
  | rejected (index : Nat) (command : String) (cause : Refusal)
deriving DecidableEq, Repr

def Refusal.message : Refusal → String
  | notActive => "no terminal session is active"
  | alreadyActive => "a terminal session is already active"
  | unknownWindow name => "no window named '" ++ name ++ "'"
  | unknownColor name => "no color named '" ++ name ++ "'"
  | duplicateWindow name => "window name '" ++ name ++ "' is already in use"
  | duplicateColor name => "color name '" ++ name ++ "' is already in use"
  | wrongWindow expected actual =>
      "current window is '" ++ actual ++ "', expected '" ++ expected ++ "'"
  | wrongShape window expected actual =>
      "read expects " ++ expected.label ++ " input but window '" ++ window ++ "' delivers " ++
        actual.label
  | unexpectedOutcome command expected => command ++ " finished without " ++ expected
  | rejected index command cause =>
      "command #" ++ toString index ++ " (" ++ command ++ ") rejected: " ++ cause.message

/-! What goes wrong outside the program: a failure that a recording terminal or a script of events
was told to have, an output that takes no more bytes, and the like. -/

inductive DeviceError where
  | injected
  | outputFull
  | flushFailed
  | injectedEvent
  | eventsExhausted
  | notTerminal
deriving DecidableEq, Repr

def DeviceError.message : DeviceError → String
  | injected => "injected failure"
  | outputFull => "writer full"
  | flushFailed => "flush failed"
  | injectedEvent => "injected event failure"
  | eventsExhausted => "event script exhausted"
  | notTerminal => "not a tty"

inductive Fault where
  | device (error : DeviceError)
  | noInput
  | invalidHandle
  | colorPairsExhausted
deriving DecidableEq, Repr

def Fault.message : Fault → String
  | device error => "terminal I/O failed: " ++ error.message
  | noInput => "blocking read returned no input"
  | invalidHandle => "invalid window handle"
  | colorPairsExhausted => "color pair table is full"

inductive Failure where
  | refusal (refusal : Refusal)
  | fault (fault : Fault)
deriving DecidableEq, Repr

namespace Failure

def message : Failure → String
  | refusal cause => cause.message
  | fault cause => cause.message

/-- The messages behind `message`, each the reason for the one before it. -/
def causes : Failure → List String
  | refusal (.rejected _ _ cause) => cause.message :: causes (.refusal cause)
  | refusal _ => []
  | fault (.device error) => [error.message]
  | fault _ => []

end Failure

end TerminalSession
