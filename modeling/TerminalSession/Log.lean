/-! # Log entries

What a run reports about itself. An entry says how serious it is and which part of the program it
comes from. -/

namespace TerminalSession.Log

inductive Level where
  | error | warn | info | debug | trace
deriving DecidableEq, Repr

namespace Level

def all : List Level := [error, warn, info, debug, trace]

def verbosity : Level → Nat
  | error => 1
  | warn => 2
  | info => 3
  | debug => 4
  | trace => 5

def label : Level → String
  | error => "ERROR"
  | warn => "WARN"
  | info => "INFO"
  | debug => "DEBUG"
  | trace => "TRACE"

end Level

inductive Source where
  | demo | machine | live | screen | settings
deriving DecidableEq, Repr

def Source.label : Source → String
  | .demo => "termguard"
  | .machine => "termguard::runtime::interpreter"
  | .live => "termguard::runtime::session"
  | .screen => "termguard::backend::console"
  | .settings => "termguard::config"

structure Entry where
  level : Level
  source : Source
  message : String
deriving DecidableEq, Repr

def Entry.line (entry : Entry) : String :=
  entry.level.label ++ " " ++ entry.source.label ++ ": " ++ entry.message

end TerminalSession.Log
