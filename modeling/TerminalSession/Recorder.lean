import TerminalSession.Listing
import TerminalSession.Pane

/-! # A terminal that records

A recorder stands in for a screen in tests and dry runs. It keeps every call, treats its windows as
plain geometry, delivers input from a queue, and can be told to fail. Its calls are kept latest
first, whether they succeeded or not, and its color pairs are numbered from one. -/

namespace TerminalSession

def Pane.advance (pane : Pane) (count : Nat) : Pane :=
  let width := max pane.size.cols.toNat 1
  let offset := pane.cursor.col.toNat + count
  let row := Coordinate.clip (pane.cursor.row.toNat + offset / width)
  { pane with cursor := ⟨row.least pane.size.rows.last, .clip (offset % width)⟩ }

structure Recorder where
  screen : Size
  history : List Call := []
  panes : Panes := .empty
  pairs : Array (Color × Color) := #[]
  input : List Code := []
  isOpen : Bool := false
  cbreak : Bool := false
  echo : Bool := true
  cursor : CursorVisibility := .normal
  armed : Option (Call.Kind × Nat) := none
deriving Repr

namespace Recorder

def standardScreen : Size := ⟨24, 80⟩

instance : Inhabited Recorder := ⟨{ screen := standardScreen }⟩

def calls (recorder : Recorder) : List Call := recorder.history.reverse

def pushInput (recorder : Recorder) (codes : List Code) : Recorder :=
  { recorder with input := recorder.input ++ codes }

def failAfter (recorder : Recorder) (kind : Call.Kind) (skip : Nat) : Recorder :=
  { recorder with armed := some (kind, skip) }

def pairLimit : Nat := 65535

/-- Whether a call of this kind is the one to fail, and what is armed after it. -/
def trigger (kind : Call.Kind) : Option (Call.Kind × Nat) → Bool × Option (Call.Kind × Nat)
  | none => (false, none)
  | some (armed, skip) =>
      if armed = kind then
        match skip with
        | 0 => (true, none)
        | skip + 1 => (false, some (armed, skip))
      else
        (false, some (armed, skip))

def onPane {α : Type} (recorder : Recorder) (window : Handle) (use : Pane → α × Pane) :
    Except Fault α × Recorder :=
  match recorder.panes.get? window with
  | none => (.error .invalidHandle, recorder)
  | some pane =>
      let (answer, pane) := use pane
      (.ok answer, { recorder with panes := recorder.panes.set window pane })

def answer : (call : Call) → Recorder → Except Fault call.Answer × Recorder
  | .openSession, recorder =>
      (.ok 0, { recorder with isOpen := true, panes := .ofScreen recorder.screen })
  | .closeSession, recorder => (.ok (), { recorder with isOpen := false })
  | .setRawMode cbreak echo, recorder => (.ok (), { recorder with cbreak, echo })
  | .setCursor cursor, recorder => (.ok (), { recorder with cursor })
  | .createWindow size origin, recorder =>
      (.ok recorder.panes.next, { recorder with panes := recorder.panes.add { origin, size } })
  | .destroyWindow window, recorder =>
      match recorder.panes.get? window with
      | none => (.error .invalidHandle, recorder)
      | some _ => (.ok (), { recorder with panes := recorder.panes.remove window })
  | .drawBorder window _, recorder => recorder.onPane window fun pane => ((), pane)
  | .putChar window _, recorder => recorder.onPane window fun pane => ((), pane.advance 1)
  | .putText window text, recorder =>
      recorder.onPane window fun pane => ((), pane.advance text.length)
  | .horizontalLine window _ _, recorder => recorder.onPane window fun pane => ((), pane)
  | .verticalLine window _ _, recorder => recorder.onPane window fun pane => ((), pane)
  | .moveCursor window cursor, recorder =>
      recorder.onPane window fun pane => ((), { pane with cursor })
  | .clear window, recorder =>
      recorder.onPane window fun pane => ((), { pane with cursor := .origin })
  | .erase window, recorder =>
      recorder.onPane window fun pane => ((), { pane with cursor := .origin })
  | .refresh window, recorder => recorder.onPane window fun pane => ((), pane)
  | .windowPosition window, recorder => recorder.onPane window fun pane => (pane.origin, pane)
  | .windowSize window, recorder => recorder.onPane window fun pane => (pane.size, pane)
  | .resizeWindow window size, recorder =>
      recorder.onPane window fun pane => ((), { pane with size })
  | .setKeypad window keypad, recorder =>
      recorder.onPane window fun pane => ((), { pane with keypad })
  | .setNoDelay window noDelay, recorder =>
      recorder.onPane window fun pane => ((), { pane with noDelay })
  | .readInput window, recorder =>
      match recorder.panes.get? window, recorder.input with
      | none, _ => (.error .invalidHandle, recorder)
      | some _, [] => (.ok none, recorder)
      | some _, code :: input => (.ok (some code), { recorder with input })
  | .startColor, recorder => (.ok (), recorder)
  | .allocatePair foreground background, recorder =>
      if recorder.pairs.size < pairLimit then
        let pairs := recorder.pairs.push (foreground, background)
        (.ok pairs.size, { recorder with pairs })
      else
        (.error .colorPairsExhausted, recorder)
  | .applyAttribute window look operation, recorder =>
      recorder.onPane window fun pane =>
        ((), { pane with rendition := pane.rendition.apply look operation })
  | .specialKeys, recorder => (.ok .standard, recorder)

/-- Records a call and carries it out, unless it is the one to fail. Asking for the special keys
never fails. -/
def perform (call : Call) (recorder : Recorder) : Reply Recorder call.Answer :=
  let recorder := { recorder with history := call :: recorder.history }
  if call.kind = .specialKeys then
    let (answer, terminal) := answer call recorder
    { answer, terminal }
  else
    match trigger call.kind recorder.armed with
    | (true, armed) =>
        { answer := .error (.device .injected), terminal := { recorder with armed } }
    | (false, armed) =>
        let (answer, terminal) := answer call { recorder with armed }
        { answer, terminal }

instance : Terminal Recorder := ⟨perform⟩

end Recorder

/-! ## How calls are listed

The lines in which a dry run shows what it would have asked of a terminal. -/

section

open Text (tagged labelled quoted quotedChar)

def Handle.text (window : Handle) : String := tagged "MockWindow" [toString window]

namespace Call

def labelledParts : Call → List (String × String)
  | setRawMode cbreak echo => [("cbreak", toString cbreak), ("echo", toString echo)]
  | createWindow size position => [("size", size.text), ("pos", position.text)]
  | drawBorder _ border => [("border", border.text)]
  | putChar _ character => [("ch", quotedChar character)]
  | putText _ text => [("s", quoted text)]
  | horizontalLine _ character length => [("ch", quotedChar character), ("len", toString length)]
  | verticalLine _ character length => [("ch", quotedChar character), ("len", toString length)]
  | moveCursor _ position => [("pos", position.text)]
  | resizeWindow _ size => [("size", size.text)]
  | setKeypad _ on => [("on", toString on)]
  | setNoDelay _ on => [("on", toString on)]
  | allocatePair foreground background =>
      [("fg", foreground.label), ("bg", background.label)]
  | applyAttribute _ look operation => [("attr", look.text), ("op", operation.label)]
  | _ => []

def text (call : Call) : String :=
  match call, call.window?, call.labelledParts with
  | setCursor visibility, _, _ => tagged call.kind.label [visibility.label]
  | _, none, [] => call.kind.label
  | _, some window, [] => tagged call.kind.label [window.text]
  | _, none, parts => labelled call.kind.label parts
  | _, some window, parts => labelled call.kind.label (("window", window.text) :: parts)

end Call

end

end TerminalSession
