import TerminalSession.Screen.Device
import TerminalSession.Screen.Drawing

/-! # Windows on one screen

A screen has no windows of its own. Each window is a rectangle of it, with its own cursor, rendition
and input flags. Drawing is written at once and flushed at a refresh; input comes from the events of
the device. A screen may own its device: then it switches raw input and the alternate screen, and
asks for the size when a session starts. Else it only writes, and takes its size for granted. -/

namespace TerminalSession

structure Screen where
  device : Screen.Device
  ownsDevice : Bool := false
  size : Size
  panes : Panes := .empty
  pairs : Array (Color × Color) := #[]
  cbreak : Bool := true
  echo : Bool := false
  queue : Screen.InputQueue := {}
  isOpen : Bool := false
deriving Repr

namespace Screen

def headless (device : Device) (size : Size) : Screen := { device, size }

def interactive (device : Device) : Screen := { device, ownsDevice := true, size := ⟨24, 80⟩ }

def pairLimit : Nat := 255

abbrev Work := EStateM Fault Screen

def write (instruction : Instruction) : Work Unit := fun screen =>
  let (result, output) := screen.device.output.write instruction
  let screen := { screen with device.output := output }
  match result with
  | .ok _ => .ok () screen
  | .error error => .error (.device error) screen

def writeAll (instructions : List Instruction) : Work Unit := instructions.forM write

def flush : Work Unit := fun screen =>
  let (result, output) := screen.device.output.flush
  let screen := { screen with device.output := output }
  match result with
  | .ok _ => .ok () screen
  | .error error => .error (.device error) screen

def switchRawMode : Work Unit := fun screen =>
  let (result, device) := screen.device.switchRawMode
  let screen := { screen with device }
  match result with
  | .ok _ => .ok () screen
  | .error error => .error (.device error) screen

def pane (window : Handle) : Work Pane := do
  match (← get).panes.get? window with
  | some pane => return pane
  | none => throw .invalidHandle

def setPane (window : Handle) (pane : Pane) : Work Unit :=
  modify fun screen => { screen with panes := screen.panes.set window pane }

/-! A failure ends the work, but what was written by then is written, and a cursor moves only if its
character was. -/

def setRendition (rendition : Rendition) : Work Unit := do
  writeAll (renditionInstructions (← get).pairs rendition)

def putCell (window : Handle) (character : Char) : Work Unit := do
  let pane ← pane window
  let (instructions, after) := putCharacter pane character
  writeAll instructions
  setPane window after

def blank (window : Handle) : Work Unit := do
  let pane ← pane window
  setRendition { pane.rendition with style := .plain }
  writeAll (blankRows pane)
  setPane window { pane with cursor := .origin }

def echoed? (code : Code) : Option Char :=
  if code.isValidChar then
    let character := Char.ofNat code
    if Text.isControl character && character ≠ '\n' then none else some character
  else
    none

/-- Takes in codes that were typed in a window. Where typed characters are shown, they are shown
before they are queued. -/
def takeIn (window : Handle) (codes : List Code) : Work Unit := do
  if (← get).echo then
    (codes.filterMap echoed?).forM (putCell window)
    flush
  modify fun screen => { screen with queue := screen.queue.accept screen.cbreak codes }

def codesOf (keypad : Bool) : Event → Work (List Code)
  | .key press released => return if released then [] else press.codes keypad
  | .resize size => do
      modify fun screen =>
        match screen.panes.get? 0 with
        | some full => { screen with size, panes := screen.panes.set 0 { full with size } }
        | none => { screen with size }
      return if keypad then [SpecialKey.resize.code] else []
  | .other => return []

def takeCode : Work (Option Code) :=
  modifyGet fun screen =>
    let (code, queue) := screen.queue.next
    (code, { screen with queue })

def setEvents (events : List Occurrence) : Work Unit :=
  modify fun screen => { screen with device.events := events }

/-- Goes through the events until one makes a code ready. Where reads do not wait, a time without
events ends the search. -/
def awaitCode (window : Handle) (flags : Pane) : List Occurrence → Work (Option Code)
  | [] => throw (.device .eventsExhausted)
  | .failure :: rest => do
      setEvents rest
      throw (.device .injectedEvent)
  | .idle :: rest => do
      setEvents rest
      if flags.noDelay then
        return none
      awaitCode window flags rest
  | .event event :: rest => do
      setEvents rest
      takeIn window (← codesOf flags.keypad event)
      match ← takeCode with
      | some code => return some code
      | none => awaitCode window flags rest

def readCode (window : Handle) : Work (Option Code) := do
  let flags ← pane window
  match ← takeCode with
  | some code => return some code
  | none => awaitCode window flags (← get).device.events

/-! A screen keeps the pairs of earlier sessions. -/

def openSession : Work Handle := do
  if (← get).ownsDevice then
    switchRawMode
    writeAll [.enterAlternateScreen, .clearAll, .moveTo .origin]
    flush
    match (← get).device.size with
    | some size => modify ({ · with size })
    | none => throw (.device .notTerminal)
  modify fun screen =>
    { screen with panes := .ofScreen screen.size, queue := {}, isOpen := true }
  return 0

/-- Ends a session and restores the screen. A screen without a session has nothing to restore, and
the session counts as ended from the moment this starts. -/
def closeSession : Work Unit := do
  if (← get).isOpen then
    modify ({ · with isOpen := false })
    writeAll [.resetAttributes, .resetColors, .showCursor]
    if (← get).ownsDevice then
      write .leaveAlternateScreen
      flush
      switchRawMode
    flush

def cursorInstructions : CursorVisibility → List Instruction
  | .invisible => [.hideCursor]
  | .normal => [.showCursor, .defaultCursorShape]
  | .highlyVisible => [.showCursor, .blockCursorShape]

def answer : (call : Call) → Work call.Answer
  | .openSession => openSession
  | .closeSession => closeSession
  | .setRawMode cbreak echo =>
      modify fun screen =>
        { screen with
          cbreak, echo, queue := if cbreak then screen.queue.release else screen.queue }
  | .setCursor visibility => do
      writeAll (cursorInstructions visibility)
      flush
  | .createWindow size origin => modifyGet fun screen =>
      (screen.panes.next, { screen with panes := screen.panes.add { origin, size } })
  | .destroyWindow window => do
      let _ ← pane window
      modify fun screen => { screen with panes := screen.panes.remove window }
  | .drawBorder window border => do
      let pane ← pane window
      if 2 ≤ pane.size.rows && 2 ≤ pane.size.cols then
        setRendition { pair := border.pair.getD pane.rendition.pair }
        writeAll (borderRows pane border.glyphs)
  | .putChar window character => do
      setRendition (← pane window).rendition
      putCell window character
  | .putText window text => do
      setRendition (← pane window).rendition
      text.toList.forM (putCell window)
  | .horizontalLine window character length => do
      let pane ← pane window
      setRendition pane.rendition
      writeAll (horizontalRun pane character length)
  | .verticalLine window character length => do
      let pane ← pane window
      setRendition pane.rendition
      writeAll (verticalRun pane character length)
  | .moveCursor window position => do
      let pane ← pane window
      setPane window { pane with cursor := pane.size.clamp position }
  | .clear window => do
      if window = 0 then
        write .clearAll
      blank window
  | .erase window => blank window
  | .refresh window => do
      let pane ← pane window
      write (.moveTo (pane.toScreen pane.cursor))
      flush
  | .windowPosition window => return (← pane window).origin
  | .windowSize window => return (← pane window).size
  | .resizeWindow window size => do
      let pane ← pane window
      setPane window { pane with size, cursor := size.clamp pane.cursor }
  | .setKeypad window keypad => do
      let pane ← pane window
      setPane window { pane with keypad }
  | .setNoDelay window noDelay => do
      let pane ← pane window
      setPane window { pane with noDelay }
  | .readInput window => readCode window
  | .startColor => pure ()
  | .allocatePair foreground background => do
      let pairs := (← get).pairs
      if pairs.size < pairLimit then
        modify fun screen => { screen with pairs := screen.pairs.push (foreground, background) }
        return pairs.size + 1
      else
        throw .colorPairsExhausted
  | .applyAttribute window look operation => do
      let pane ← pane window
      setPane window { pane with rendition := pane.rendition.apply look operation }
  | .specialKeys => return .standard

def notes : (call : Call) → (before after : Screen) → List Log.Entry
  | .openSession, _, after =>
      [⟨.info, .screen,
        "Console session opened: " ++ toString after.size.cols ++ "x" ++
          toString after.size.rows ++ " (tty: " ++ toString after.ownsDevice ++ ")"⟩]
  | .closeSession, before, _ =>
      if before.isOpen then [⟨.info, .screen, "Console session closed"⟩] else []
  | .createWindow size position, before, _ =>
      [⟨.debug, .screen,
        "Created window " ++ toString before.panes.next ++ " at " ++ toString position.row ++ "," ++
          toString position.col ++ " size " ++ toString size.rows ++ "x" ++
          toString size.cols⟩]
  | .destroyWindow window, _, _ =>
      [⟨.debug, .screen, "Destroyed window " ++ toString window⟩]
  | .startColor, _, _ => [⟨.debug, .screen, "Color support started"⟩]
  | _, _, _ => []

def perform (call : Call) (screen : Screen) : Reply Screen call.Answer :=
  match answer call screen with
  | .ok answer terminal =>
      { answer := .ok answer, terminal, notes := notes call screen terminal }
  | .error fault terminal => { answer := .error fault, terminal }

instance : Terminal Screen := ⟨perform⟩

def abandon (screen : Screen) : Screen :=
  if screen.isOpen && screen.ownsDevice then
    match closeSession screen with
    | .ok _ screen | .error _ screen => screen
  else
    screen

/-! ## How much there is to read

A screen cannot deliver more than what was typed and what is still in the script of its device.

Each entry of a script can make one read succeed for every code, and one for the time it takes. -/

def Occurrence.reads : Occurrence → Nat
  | .event (.key press _) => 1 + max (press.codes true).length (press.codes false).length
  | .event (.resize _) => 2
  | .event .other | .idle | .failure => 1

def pendingReads (screen : Screen) : Nat :=
  screen.queue.ready.length + screen.queue.line.length +
    screen.device.events.foldr (fun occurrence count => occurrence.reads + count) 0

end Screen

end TerminalSession
