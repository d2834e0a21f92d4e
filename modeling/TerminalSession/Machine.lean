import TerminalSession.Bindings
import TerminalSession.Program

/-! # Carrying commands out

A machine owns a terminal, the phase that commands are checked against, and the bindings of the
session. A command is checked first; then the terminal does its part; only after that do phase and
bindings change. So a failure leaves both as the last completed command left them. -/

namespace TerminalSession

structure Machine (τ : Type) where
  host : Logged τ
  phase : Phase
  bindings : Option Bindings

namespace Machine

variable {τ : Type}

def new (terminal : τ) : Machine τ where
  host := { terminal }
  phase := .inactive
  bindings := none

def terminal (machine : Machine τ) : τ := machine.host.terminal

def isConsistent (machine : Machine τ) : Bool :=
  match machine.phase, machine.bindings with
  | .inactive, none => true
  | .active session, some bindings =>
      session.isWellFormed && bindings.isConsistentWith session
  | _, _ => false

section

variable [Terminal τ]

open Exchange (call note accept)

def openSession : Exchange τ Bindings := do
  let screen ← call .openSession
  call (.setRawMode true false)
  call (.setKeypad screen true)
  call (.setNoDelay screen false)
  let keys ← call .specialKeys
  note .info .machine ("Session started (" ++ toString keys.size ++ " special keys)")
  return .fresh screen keys

def closeSession : Exchange τ Unit := do
  call .closeSession
  note .info .machine "Session ended"

def prepareWindow (window : Handle) (border : Option ResolvedBorder) : Exchange τ Unit := do
  call (.setKeypad window true)
  call (.setNoDelay window false)
  match border with
  | some border => call (.drawBorder window border)
  | none => return

/-- Makes a window. If it cannot be prepared it is given back, because no binding will ever name
it. -/
def createWindow (name : String) (position : Position) (size : Size)
    (border : Option ResolvedBorder) : Exchange τ Handle := do
  let window ← call (.createWindow size position)
  try
    prepareWindow window border
  catch failure =>
    try
      call (.destroyWindow window)
    catch cleanup =>
      note .warn .machine ("Failed to destroy window '" ++ name ++ "': " ++ cleanup.message)
    throw failure
  return window

/-- Allocates a pair. The first color of a session has the terminal start its color support. -/
def allocateColor (bindings : Bindings) (name : String) (foreground background : Color) :
    Exchange τ ColorPair := do
  if bindings.colors.isEmpty then
    call .startColor
  let pair ← call (.allocatePair foreground background)
  note .debug .machine ("Color '" ++ name ++ "' bound to pair " ++ toString pair)
  return pair

def draw (window : Handle) : Drawing → Exchange τ Unit
  | .char character => call (.putChar window character)
  | .text text => call (.putText window text)
  | .line text => do
      call (.putText window text)
      call (.putChar window '\n')
  | .horizontalLine character length => call (.horizontalLine window character length)
  | .verticalLine character length => call (.verticalLine window character length)
  | .move position => call (.moveCursor window position)

def readCurrent (bindings : Bindings) : Exchange τ Input := do
  let delivered ← call (.readInput bindings.handle)
  match bindings.current.window.shape.resolve delivered bindings.keys with
  | some input => return input
  | none => throw (.fault .noInput)

def perform (session : Session) (bindings : Bindings) (action : Action) :
    Exchange τ (Outcome × Bindings) := do
  match action with
  | .addWindow name position size border =>
      let border ← border.mapM fun border => accept (bindings.resolveBorder border)
      let window ← createWindow name position size border
      return (.unit, bindings.addWindow name border window)
  | .setWindow name => return (.unit, ← accept (bindings.setWindow name))
  | .unsetWindow => return (.unit, ← accept bindings.unsetWindow)
  | .addColor name foreground background =>
      let pair ← allocateColor bindings name foreground background
      return (.unit, bindings.addColor name pair)
  | .changeAttribute operation look =>
      let native ← accept (bindings.resolveAttribute look)
      call (.applyAttribute bindings.handle native operation)
      return (.unit, bindings)
  | .clear =>
      call (.clear bindings.handle)
      return (.unit, bindings)
  | .erase =>
      call (.erase bindings.handle)
      return (.unit, bindings)
  | .refresh =>
      call (.refresh bindings.handle)
      return (.unit, bindings)
  | .draw drawing =>
      draw bindings.handle drawing
      return (.unit, bindings)
  | .getPosition =>
      let position ← call (.windowPosition bindings.handle)
      return (.position position, bindings)
  | .getSize =>
      let size ← call (.windowSize bindings.handle)
      return (.size size, bindings)
  | .setSize size =>
      call (.resizeWindow bindings.handle size)
      return (.unit, bindings)
  | .setEcho on =>
      call (.setRawMode session.cbreak on)
      return (.unit, bindings)
  | .setCbreak on =>
      call (.setRawMode on session.echo)
      return (.unit, bindings)
  | .setKeypad on =>
      call (.setKeypad bindings.handle on)
      return (.unit, bindings.setKeypad on)
  | .setNoDelay on =>
      call (.setNoDelay bindings.handle on)
      return (.unit, bindings.setNoDelay on)
  | .setCursor visibility =>
      call (.setCursor visibility)
      return (.unit, bindings)
  | .getInput | .readAs _ =>
      let input ← readCurrent bindings
      return (.input input, bindings)
  | .require _ => return (.unit, bindings)

/-- The terminal's part in a command, its outcome, and the bindings after it. -/
def dispatch (phase : Phase) (bindings : Option Bindings) (command : Command) :
    Exchange τ (Outcome × Option Bindings) := do
  match command with
  | .init _ =>
      let bindings ← openSession
      return (.unit, some bindings)
  | .deinit =>
      closeSession
      return (.unit, none)
  | .act action =>
      match phase, bindings with
      | .active session, some bindings =>
          let (outcome, bindings) ← perform session bindings action
          return (outcome, some bindings)
      | _, _ => throw (.refusal .notActive)

/-- Checks a command and carries it out. -/
def execute (machine : Machine τ) (command : Command) : Except Failure Outcome × Machine τ :=
  let ⟨host, phase, bindings⟩ := machine
  match command.apply phase with
  | .error refusal => (.error (.refusal refusal), ⟨host, phase, bindings⟩)
  | .ok next =>
      let work : Exchange τ (Outcome × Option Bindings) := do
        note .debug .machine ("Executing " ++ command.text)
        dispatch phase bindings command
      match work host with
      | .ok (outcome, bindings) host => (.ok outcome, ⟨host, next, bindings⟩)
      | .error failure host => (.error failure, ⟨host, phase, bindings⟩)

def runAll (machine : Machine τ) : List Command → Except Failure (List Outcome) × Machine τ
  | [] => (.ok [], machine)
  | command :: rest =>
      match machine.execute command with
      | (.error failure, machine) => (.error failure, machine)
      | (.ok outcome, machine) =>
          let (outcomes, machine) := machine.runAll rest
          (outcomes.map (outcome :: ·), machine)

def run (machine : Machine τ) (program : Program) : Except Failure (List Outcome) × Machine τ :=
  machine.runAll program.commands

def read (machine : Machine τ) (shape : ReadShape) : Except Failure shape.Value × Machine τ :=
  let ⟨host, phase, bindings⟩ := machine
  let work : Exchange τ shape.Value := do
    accept ((Command.act (.readAs shape)).check phase)
    let some bindings := bindings | throw (.refusal .notActive)
    let delivered ← call (.readInput bindings.handle)
    match shape.decode delivered bindings.keys with
    | some value => return value
    | none => throw (.fault .noInput)
  match work host with
  | .ok value host => (.ok value, ⟨host, phase, bindings⟩)
  | .error failure host => (.error failure, ⟨host, phase, bindings⟩)

end

end Machine

end TerminalSession
