import Mathlib.Logic.Function.Basic
import TerminalSession.Pane

/-! # What a session sees of its terminal

A session relies on little of what goes on in a terminal: which windows there are, the two input
flags of each, and the input modes. That much of a terminal is its native state. A faithful terminal
changes it only as the calls say, whether or not anything else in the terminal fails. -/

namespace TerminalSession

structure InputFlags where
  keypad : Bool := false
  noDelay : Bool := false
deriving DecidableEq, Repr

def Pane.inputFlags (pane : Pane) : InputFlags := ⟨pane.keypad, pane.noDelay⟩

structure Native where
  flags : Handle → Option InputFlags
  cbreak : Bool
  echo : Bool

namespace Native

def setFlags (native : Native) (window : Handle) (flags : Option InputFlags) : Native :=
  { native with flags := Function.update native.flags window flags }

/-! The native state after a call that was answered. Of a call that was denied, only a window that
is not there explains an invalid handle. -/

def after (native : Native) : (call : Call) → call.Answer → Native
  | .openSession, screen =>
      { native with flags := Function.update (fun _ => none) screen (some {}) }
  | .setRawMode cbreak echo, _ => { native with cbreak, echo }
  | .createWindow .., window => native.setFlags window (some {})
  | .destroyWindow window, _ => native.setFlags window none
  | .setKeypad window keypad, _ =>
      native.setFlags window ((native.flags window).map ({ · with keypad }))
  | .setNoDelay window noDelay, _ =>
      native.setFlags window ((native.flags window).map ({ · with noDelay }))
  | _, _ => native

def Explains (native : Native) (call : Call) (fault : Fault) : Prop :=
  fault = .invalidHandle → ∃ window, call.window? = some window ∧ native.flags window = none

@[simp] theorem setFlags_self (native : Native) (window : Handle) :
    native.setFlags window (native.flags window) = native := by
  rw [setFlags, Function.update_eq_self]

@[simp] theorem setFlags_setFlags (native : Native) (window : Handle)
    (first second : Option InputFlags) :
    (native.setFlags window first).setFlags window second = native.setFlags window second := by
  rw [setFlags, setFlags, Function.update_idem]
  rfl

@[simp] theorem flags_setFlags (native : Native) (window : Handle) (flags : Option InputFlags) :
    (native.setFlags window flags).flags window = flags := Function.update_self ..

end Native

/-- A terminal whose native state is known, and follows the calls. -/
class NativeTerminal (τ : Type) [Terminal τ] where
  native : τ → Native
  native_answered {call : Call} {answer : call.Answer} {before after : τ}
    {notes : List Log.Entry} (reply : Terminal.perform call before = ⟨.ok answer, after, notes⟩) :
    native after = (native before).after call answer
  native_denied {call : Call} {fault : Fault} {before after : τ} {notes : List Log.Entry}
    (reply : Terminal.perform call before = ⟨.error fault, after, notes⟩) :
    native after = native before
  explains {call : Call} {fault : Fault} {before after : τ} {notes : List Log.Entry}
    (reply : Terminal.perform call before = ⟨.error fault, after, notes⟩) :
    (native before).Explains call fault
  flags_created {size : Size} {position : Position} {window : Handle} {before after : τ}
    {notes : List Log.Entry}
    (reply : Terminal.perform (.createWindow size position) before = ⟨.ok window, after, notes⟩) :
    (native before).flags window = none
  destroyed {call : Call} {window : Handle} {fault : Fault} {before after : τ}
    {notes : List Log.Entry} (about : call.window? = some window)
    (there : (native before).flags window ≠ none)
    (reply : Terminal.perform call before = ⟨.error fault, after, notes⟩) :
    ∃ last notes', Terminal.perform (.destroyWindow window) after = ⟨.ok (), last, notes'⟩

namespace Panes

def view {α : Type} (look : Pane → α) (panes : Panes) (window : Handle) : Option α :=
  (panes.get? window).map look

def flags (panes : Panes) (window : Handle) : Option InputFlags :=
  (panes.get? window).map Pane.inputFlags

section

variable {α : Type} (look : Pane → α)

theorem view_ofScreen (size : Size) :
    (ofScreen size).view look =
      Function.update (fun _ => none) 0 (some (look { origin := .origin, size })) := by
  funext window
  cases window with
  | zero => rfl
  | succ window => rfl

theorem view_add (panes : Panes) (pane : Pane) :
    (panes.add pane).view look =
      Function.update (panes.view look) panes.next (some (look pane)) := by
  funext window
  rw [view, get?_add, Function.update_apply]
  split
  · rfl
  · rfl

theorem view_set {panes : Panes} {window : Handle} {old : Pane}
    (found : panes.get? window = some old) (pane : Pane) :
    (panes.set window pane).view look =
      Function.update (panes.view look) window (some (look pane)) := by
  funext other
  rw [view, get?_set found, Function.update_apply]
  split
  · rfl
  · rfl

theorem view_remove (panes : Panes) (window : Handle) :
    (panes.remove window).view look = Function.update (panes.view look) window none := by
  funext other
  rw [view, get?_remove, Function.update_apply]
  split
  · rfl
  · rfl

end

theorem flags_ofScreen (size : Size) :
    (ofScreen size).flags = Function.update (fun _ => none) 0 (some {}) := view_ofScreen _ size

theorem flags_add (panes : Panes) (pane : Pane) :
    (panes.add pane).flags = Function.update panes.flags panes.next (some pane.inputFlags) :=
  view_add _ panes pane

theorem flags_set {panes : Panes} {window : Handle} {old : Pane}
    (found : panes.get? window = some old) (pane : Pane) :
    (panes.set window pane).flags =
      Function.update panes.flags window (some pane.inputFlags) := view_set _ found pane

theorem flags_remove (panes : Panes) (window : Handle) :
    (panes.remove window).flags = Function.update panes.flags window none :=
  view_remove _ panes window

theorem flags_next (panes : Panes) : panes.flags panes.next = none := by
  simp [flags, get?, next]

theorem flags_of_get? {panes : Panes} {window : Handle} {pane : Pane}
    (found : panes.get? window = some pane) : panes.flags window = some pane.inputFlags := by
  rw [flags, found]
  rfl

theorem flags_eq_none_iff (panes : Panes) (window : Handle) :
    panes.flags window = none ↔ panes.get? window = none := Option.map_eq_none_iff

end Panes

end TerminalSession
