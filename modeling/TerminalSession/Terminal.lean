import TerminalSession.Border
import TerminalSession.Failure
import TerminalSession.Log

/-! # Terminals

A terminal is anything that answers calls. Commands reach it only through them, so a terminal may
be a screen, or a record of what was asked of it. -/

namespace TerminalSession

abbrev Handle := Nat

/-! The full screen is window zero. Opening a session answers with it, and the handle of a window
that was destroyed means nothing afterwards. A window that is cleared is blanked and painted anew at
the next refresh, one that is erased is only blanked. Where reads wait, asking for a code waits;
where they do not, there may be none. -/

inductive Call where
  | openSession
  | closeSession
  | setRawMode (cbreak echo : Bool)
  | setCursor (visibility : CursorVisibility)
  | createWindow (size : Size) (position : Position)
  | destroyWindow (window : Handle)
  | drawBorder (window : Handle) (border : ResolvedBorder)
  | putChar (window : Handle) (character : Char)
  | putText (window : Handle) (text : String)
  | horizontalLine (window : Handle) (character : Char) (length : Coordinate)
  | verticalLine (window : Handle) (character : Char) (length : Coordinate)
  | moveCursor (window : Handle) (position : Position)
  | clear (window : Handle)
  | erase (window : Handle)
  | refresh (window : Handle)
  | windowPosition (window : Handle)
  | windowSize (window : Handle)
  | resizeWindow (window : Handle) (size : Size)
  | setKeypad (window : Handle) (on : Bool)
  | setNoDelay (window : Handle) (on : Bool)
  | readInput (window : Handle)
  | startColor
  | allocatePair (foreground background : Color)
  | applyAttribute (window : Handle) (look : NativeAttribute)
      (operation : AttributeOperation)
  | specialKeys
deriving DecidableEq, Repr

namespace Call

@[reducible] def Answer : Call → Type
  | openSession => Handle
  | createWindow _ _ => Handle
  | windowPosition _ => Position
  | windowSize _ => Size
  | readInput _ => Option Code
  | allocatePair _ _ => ColorPair
  | specialKeys => KeyTable
  | _ => Unit

inductive Kind where
  | openSession | closeSession | setRawMode | setCursor | createWindow | destroyWindow
  | drawBorder | putChar | putText | horizontalLine | verticalLine | moveCursor | clear | erase
  | refresh | windowPosition | windowSize | resizeWindow | setKeypad | setNoDelay | readInput
  | startColor | allocatePair | applyAttribute | specialKeys
deriving DecidableEq, Repr

def kind : Call → Kind
  | openSession => .openSession
  | closeSession => .closeSession
  | setRawMode .. => .setRawMode
  | setCursor _ => .setCursor
  | createWindow .. => .createWindow
  | destroyWindow _ => .destroyWindow
  | drawBorder .. => .drawBorder
  | putChar .. => .putChar
  | putText .. => .putText
  | horizontalLine .. => .horizontalLine
  | verticalLine .. => .verticalLine
  | moveCursor .. => .moveCursor
  | clear _ => .clear
  | erase _ => .erase
  | refresh _ => .refresh
  | windowPosition _ => .windowPosition
  | windowSize _ => .windowSize
  | resizeWindow .. => .resizeWindow
  | setKeypad .. => .setKeypad
  | setNoDelay .. => .setNoDelay
  | readInput _ => .readInput
  | startColor => .startColor
  | allocatePair .. => .allocatePair
  | applyAttribute .. => .applyAttribute
  | specialKeys => .specialKeys

namespace Kind

def all : List Kind :=
  [openSession, closeSession, setRawMode, setCursor, createWindow, destroyWindow, drawBorder,
    putChar, putText, horizontalLine, verticalLine, moveCursor, clear, erase, refresh,
    windowPosition, windowSize, resizeWindow, setKeypad, setNoDelay, readInput, startColor,
    allocatePair, applyAttribute, specialKeys]

def label : Kind → String
  | openSession => "OpenSession"
  | closeSession => "CloseSession"
  | setRawMode => "SetRawMode"
  | setCursor => "SetCursor"
  | createWindow => "CreateWindow"
  | destroyWindow => "DestroyWindow"
  | drawBorder => "DrawBorder"
  | putChar => "PutChar"
  | putText => "PutStr"
  | horizontalLine => "HLine"
  | verticalLine => "VLine"
  | moveCursor => "Move"
  | clear => "Clear"
  | erase => "Erase"
  | refresh => "Refresh"
  | windowPosition => "WindowPosition"
  | windowSize => "WindowSize"
  | resizeWindow => "Resize"
  | setKeypad => "SetKeypad"
  | setNoDelay => "SetNoDelay"
  | readInput => "ReadInput"
  | startColor => "StartColor"
  | allocatePair => "AllocatePair"
  | applyAttribute => "ApplyAttribute"
  | specialKeys => "SpecialKeys"

def ofLabel? (label : String) : Option Kind := all.find? (·.label = label)

end Kind

def window? : Call → Option Handle
  | destroyWindow window => some window
  | drawBorder window _ => some window
  | putChar window _ => some window
  | putText window _ => some window
  | horizontalLine window _ _ => some window
  | verticalLine window _ _ => some window
  | moveCursor window _ => some window
  | clear window => some window
  | erase window => some window
  | refresh window => some window
  | windowPosition window => some window
  | windowSize window => some window
  | resizeWindow window _ => some window
  | setKeypad window _ => some window
  | setNoDelay window _ => some window
  | readInput window => some window
  | applyAttribute window _ _ => some window
  | openSession | closeSession | setRawMode .. | setCursor _ | createWindow .. | startColor
  | allocatePair .. | specialKeys => none

end Call

/-! A terminal answers a call or gives the reason why not, and tells what it has to report. What it
did before a failure is done. -/

structure Reply (τ : Type) (α : Type) where
  answer : Except Fault α
  terminal : τ
  notes : List Log.Entry := []

class Terminal (τ : Type) where
  perform (call : Call) (terminal : τ) : Reply τ call.Answer

structure Logged (τ : Type) where
  terminal : τ
  log : List Log.Entry := []

/-! Work on a terminal ends at its first failure. The log has the latest entry first. -/

abbrev Exchange (τ : Type) := EStateM Failure (Logged τ)

namespace Exchange

variable {τ : Type}

def call [Terminal τ] (call : Call) : Exchange τ call.Answer
  | ⟨terminal, log⟩ =>
    match Terminal.perform call terminal with
    | ⟨.ok answer, terminal, notes⟩ => .ok answer ⟨terminal, notes.reverse ++ log⟩
    | ⟨.error fault, terminal, notes⟩ => .error (.fault fault) ⟨terminal, notes.reverse ++ log⟩

def note (level : Log.Level) (source : Log.Source) (message : String) : Exchange τ Unit
  | ⟨terminal, log⟩ => .ok () ⟨terminal, ⟨level, source, message⟩ :: log⟩

def accept {α : Type} : Except Refusal α → Exchange τ α
  | .ok value => pure value
  | .error refusal => throw (.refusal refusal)

end Exchange

end TerminalSession
