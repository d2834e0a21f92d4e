import TerminalSession.Proofs.Native
import TerminalSession.Screen

/-! # The facade of a terminal

Terminals differ in how they draw and in when they fail. What a session can learn from them as long
as they do not fail, and reads nothing, is their facade: the geometry, the rendition and the input
flags of the windows, and the color pairs. The facade says what is answered to a call, and a
terminal that is sound answers just that. -/

namespace TerminalSession

structure Frame where
  origin : Position
  size : Size
  rendition : Rendition := {}
  keypad : Bool := false
  noDelay : Bool := false
deriving DecidableEq, Repr

def Pane.frame (pane : Pane) : Frame where
  origin := pane.origin
  size := pane.size
  rendition := pane.rendition
  keypad := pane.keypad
  noDelay := pane.noDelay

def Call.isCalm : Call → Bool
  | destroyWindow _ | readInput _ => false
  | _ => true

structure Facade where
  screen : Size
  frames : Handle → Option Frame
  next : Handle
  pairs : Array (Color × Color)

namespace Facade

def change (facade : Facade) (window : Handle) (edit : Frame → Frame) : Facade :=
  { facade with
    frames := Function.update facade.frames window ((facade.frames window).map edit) }

theorem change_of_eq (facade : Facade) (window : Handle) {edit : Frame → Frame}
    (same : ∀ frame, edit frame = frame) : facade.change window edit = facade := by
  have unchanged : edit = id := funext same
  rw [change, unchanged, Option.map_id_fun, id, Function.update_eq_self]

/-! About windows that are not there, about pairs beyond the limit, and about input the facade has
no answer. -/

def answer? (facade : Facade) : (call : Call) → Option call.Answer
  | .openSession => some 0
  | .createWindow _ _ => some facade.next
  | .windowPosition window => (facade.frames window).map Frame.origin
  | .windowSize window => (facade.frames window).map Frame.size
  | .allocatePair _ _ =>
      if facade.pairs.size < Screen.pairLimit then some (facade.pairs.size + 1) else none
  | .specialKeys => some .standard
  | .readInput _ => none
  | .closeSession | .setRawMode _ _ | .setCursor _ | .startColor => some ()
  | .destroyWindow window | .drawBorder window _ | .putChar window _ | .putText window _
  | .horizontalLine window _ _ | .verticalLine window _ _ | .moveCursor window _ | .clear window
  | .erase window | .refresh window | .resizeWindow window _ | .setKeypad window _
  | .setNoDelay window _ | .applyAttribute window _ _ => (facade.frames window).map fun _ => ()

def after (facade : Facade) : Call → Facade
  | .openSession =>
      { facade with
        frames := Function.update (fun _ => none) 0
          (some { origin := .origin, size := facade.screen })
        next := 1 }
  | .createWindow size origin =>
      { facade with
        frames := Function.update facade.frames facade.next (some { origin, size })
        next := facade.next + 1 }
  | .destroyWindow window => { facade with frames := Function.update facade.frames window none }
  | .resizeWindow window size => facade.change window ({ · with size })
  | .setKeypad window keypad => facade.change window ({ · with keypad })
  | .setNoDelay window noDelay => facade.change window ({ · with noDelay })
  | .applyAttribute window look operation =>
      facade.change window fun frame =>
        { frame with rendition := frame.rendition.apply look operation }
  | .allocatePair foreground background =>
      { facade with pairs := facade.pairs.push (foreground, background) }
  | _ => facade

/-! ## Windows that stay

A calm call leaves its window there, and asks for no input. -/

def Has (facade : Facade) (window : Handle) : Prop := ∃ frame, facade.frames window = some frame

/-- No window is lost, and no pair is added. -/
structure Keeps (before after : Facade) : Prop where
  windows : ∀ window, before.Has window → after.Has window
  pairs : after.pairs = before.pairs

namespace Keeps

theorem refl (facade : Facade) : facade.Keeps facade := ⟨fun _ => id, rfl⟩

theorem trans {before middle after : Facade} (first : before.Keeps middle)
    (second : middle.Keeps after) : before.Keeps after where
  windows window there := second.windows window (first.windows window there)
  pairs := second.pairs.trans first.pairs

end Keeps

variable {facade : Facade} {window : Handle} {call : Call}

theorem has_update {frames : Handle → Option Frame} (frame : Frame) {other : Handle}
    (there : other = window ∨ ∃ frame, frames other = some frame) :
    ∃ frame', Function.update frames window (some frame) other = some frame' := by
  rw [Function.update_apply]
  split
  · exact ⟨frame, rfl⟩
  · rename_i apart
    exact there.resolve_left apart

theorem keeps_change (facade : Facade) (window : Handle) (edit : Frame → Frame) :
    facade.Keeps (facade.change window edit) := by
  refine ⟨?_, rfl⟩
  intro other there
  cases found : facade.frames window with
  | none =>
      have same : facade.change window edit = facade := by
        rw [change, found, Option.map_none, ← found, Function.update_eq_self]
      rw [same]
      exact there
  | some frame =>
      rw [change, found]
      exact has_update (edit frame) (.inr there)

theorem has_openSession (facade : Facade) : (facade.after .openSession).Has 0 :=
  ⟨{ origin := .origin, size := facade.screen }, rfl⟩

theorem keeps_createWindow (facade : Facade) (size : Size) (origin : Position) :
    facade.Keeps (facade.after (.createWindow size origin)) :=
  ⟨fun _ there => has_update _ (.inr there), rfl⟩

theorem has_createWindow (facade : Facade) (size : Size) (origin : Position) :
    (facade.after (.createWindow size origin)).Has facade.next := has_update _ (.inl rfl)

/-- A call about a window that is there has an answer, and the window stays. -/
theorem calm_of_window (about : call.window? = some window) (there : facade.Has window)
    (calm : call.isCalm = true) :
    (∃ given, facade.answer? call = some given) ∧ facade.Keeps (facade.after call) := by
  rcases there with ⟨frame, found⟩
  cases call with
  | destroyWindow | readInput => cases calm
  | openSession | closeSession | setRawMode | setCursor | createWindow | startColor
  | allocatePair | specialKeys => cases about
  | windowPosition | windowSize =>
      cases about
      exact ⟨⟨_, congrArg (Option.map _) found⟩, .refl facade⟩
  | resizeWindow | setKeypad | setNoDelay | applyAttribute =>
      cases about
      exact ⟨⟨_, congrArg (Option.map _) found⟩, facade.keeps_change _ _⟩
  | _ =>
      cases about
      exact ⟨⟨_, congrArg (Option.map _) found⟩, .refl facade⟩

end Facade

/-! A sound terminal, one that has nothing set up to fail, does what its facade says. -/

class FacadeTerminal (τ : Type) [Terminal τ] where
  facade : τ → Facade
  Sound : τ → Prop
  obeys {call : Call} {answer : call.Answer} {before : τ} (sound : Sound before)
    (said : (facade before).answer? call = some answer) :
    ∃ after notes, Terminal.perform call before = ⟨.ok answer, after, notes⟩ ∧ Sound after ∧
      facade after = (facade before).after call

namespace Panes

variable {panes : Panes} {window : Handle} {pane : Pane}

def frames (panes : Panes) : Handle → Option Frame := panes.view Pane.frame

theorem frames_of_get? (found : panes.get? window = some pane) :
    panes.frames window = some pane.frame := by
  rw [frames, view, found]
  rfl

theorem get?_of_frames {frame : Frame} (there : panes.frames window = some frame) :
    ∃ pane, panes.get? window = some pane ∧ pane.frame = frame :=
  Option.map_eq_some_iff.mp there

theorem next_set (panes : Panes) (window : Handle) (pane : Pane) :
    (panes.set window pane).next = panes.next := by
  simp [set, next]

theorem next_remove (panes : Panes) (window : Handle) :
    (panes.remove window).next = panes.next := by
  simp [remove, next]

theorem next_add (panes : Panes) (pane : Pane) : (panes.add pane).next = panes.next + 1 := by
  simp [add, next]

theorem frames_set {edit : Frame → Frame} {changed : Pane}
    (found : panes.get? window = some pane) (edited : changed.frame = edit pane.frame) :
    (panes.set window changed).frames =
      Function.update panes.frames window ((panes.frames window).map edit) := by
  rw [frames_of_get? found, Option.map_some, ← edited]
  exact view_set Pane.frame found changed

end Panes

end TerminalSession
