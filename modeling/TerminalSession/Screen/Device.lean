import TerminalSession.Failure
import TerminalSession.Keyboard
import TerminalSession.Screen.Instruction

/-! # The device behind a screen

A device is what a screen writes to and hears from. Its output may be full after some bytes, and
flushing may fail from some time on. Its events are a script: what happens, when nothing happens,
and when asking for events fails. -/

namespace TerminalSession.Screen

inductive Written where
  | whole (instruction : Instruction)
  | cut (instruction : Instruction) (bytes : Nat)
deriving DecidableEq, Repr

/-- The characters of a list as far as their bytes fit. A character that fits in part shows as a
replacement character. -/
def cutText : List Char → Nat → List Char
  | [], _ => []
  | character :: rest, bytes =>
      if character.utf8Size ≤ bytes then character :: cutText rest (bytes - character.utf8Size)
      else if bytes = 0 then []
      else ['\uFFFD']

def Written.text : Written → String
  | whole instruction => instruction.text
  | cut instruction bytes => String.ofList (cutText instruction.text.toList bytes)

/-! Everything that was written is kept, latest first. Room for bytes and flushes may be limited;
where the output became full, only the first bytes of an instruction were taken. -/

structure Output where
  written : List Written := []
  room : Option Nat := none
  flushes : Nat := 0
  flushesLeft : Option Nat := none
deriving Repr, Inhabited

namespace Output

def write (output : Output) (instruction : Instruction) : Except DeviceError Unit × Output :=
  let written := .whole instruction :: output.written
  match output.room with
  | none => (.ok (), { output with written })
  | some room =>
      let bytes := instruction.text.utf8ByteSize
      if bytes ≤ room then
        (.ok (), { output with written, room := some (room - bytes) })
      else
        let written := .cut instruction room :: output.written
        (.error .outputFull, { output with written, room := some 0 })

def flush (output : Output) : Except DeviceError Unit × Output :=
  match output.flushesLeft with
  | none => (.ok (), { output with flushes := output.flushes + 1 })
  | some 0 => (.error .flushFailed, output)
  | some (left + 1) =>
      (.ok (), { output with flushes := output.flushes + 1, flushesLeft := some left })

def text (output : Output) : String := String.join (output.written.reverse.map Written.text)

end Output

inductive Event where
  | key (press : KeyPress) (released : Bool)
  | resize (size : Size)
  | other
deriving DecidableEq, Repr

/-! In a script an event happens, nothing happens for a while, or asking for events fails. -/

inductive Occurrence where
  | event (event : Event)
  | idle
  | failure
deriving DecidableEq, Repr

/-! A device tells its size, or that it has none, and switches its input, or refuses to. A terminal
does both, and what is no terminal does neither; the two are asked for apart, so either may fail. -/

structure Device where
  output : Output := {}
  events : List Occurrence := []
  size : Option Size := none
  switches : Bool := size.isSome
deriving Repr, Inhabited

def Device.switchRawMode (device : Device) : Except DeviceError Unit × Device :=
  match device.events, device.switches with
  | .failure :: events, _ => (.error .injectedEvent, { device with events })
  | _, false => (.error .notTerminal, device)
  | _, true => (.ok (), device)

/-! ## Codes that were typed and not yet read

Codes wait in the order they were typed. Where keys are delivered line by line, a line waits apart
until it is complete. Releasing a line counts it as complete. -/

structure InputQueue where
  ready : List Code := []
  line : List Code := []
deriving DecidableEq, Repr, Inhabited

namespace InputQueue

def newline : Code := 0x0A

def release (queue : InputQueue) : InputQueue := ⟨queue.ready ++ queue.line, []⟩

def type (queue : InputQueue) (code : Code) : InputQueue :=
  let typed : InputQueue := { queue with line := queue.line ++ [code] }
  if code = newline then typed.release else typed

def accept (queue : InputQueue) (cbreak : Bool) (codes : List Code) : InputQueue :=
  if cbreak then { queue with ready := queue.ready ++ codes }
  else codes.foldl type queue

def next (queue : InputQueue) : Option Code × InputQueue :=
  match queue.ready with
  | [] => (none, queue)
  | code :: ready => (some code, { queue with ready })

end InputQueue

end TerminalSession.Screen
