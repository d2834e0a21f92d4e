import TerminalSession.Proofs.LiveHandles
import TerminalSession.Proofs.NativeScreen
import TerminalSession.Proofs.OpenRecorder

/-! # Terminals agree with their sessions

What is known of every faithful terminal, said of recorders and screens: which windows they have,
with which flags, and in which input modes they are. -/

namespace TerminalSession

namespace Panes

theorem mem_live_iff (panes : Panes) (window : Handle) (pane : Pane) :
    (window, pane) ∈ panes.live ↔ panes.get? window = some pane := by
  rw [live, List.mem_filterMap, get?, Option.join_eq_some_iff]
  constructor
  · rintro ⟨⟨slot, handle⟩, member, mapped⟩
    rcases Option.map_eq_some_iff.mp mapped with ⟨found, rfl, same⟩
    cases same
    rw [List.mk_mem_zipIdx_iff_getElem?] at member
    simpa using member
  · intro found
    refine ⟨(some pane, window), ?_, rfl⟩
    rw [List.mk_mem_zipIdx_iff_getElem?]
    simpa using found

end Panes

namespace Machine

open Recorder

/-- The windows there are, by their panes, are the ones that are bound, each of them once and with
its flags. The input modes are those of the session. -/
structure Mirrored (bindings : Bindings) (session : Session) (panes : Panes)
    (cbreak echo : Bool) : Prop where
  distinct : bindings.handles.Nodup
  live : ∀ window, window ∈ bindings.handles ↔ ∃ pane, (window, pane) ∈ panes.live
  flags : ∀ bound ∈ bindings.windows.toList, ∀ pane, (bound.handle, pane) ∈ panes.live →
    pane.keypad = bound.window.keypad ∧ pane.noDelay = bound.window.noDelay
  modes : cbreak = session.cbreak ∧ echo = session.echo

/-! Between commands a recorder may be told to fail or be given input, and a screen may get another
device. -/

def Rearmed (before after : Recorder) : Prop := ∃ armed input, after = { before with armed, input }

def Rewired (before after : Screen) : Prop := ∃ device, after = { before with device }

theorem native_rearmed (before after : Recorder) (change : Rearmed before after) :
    NativeTerminal.native after = NativeTerminal.native before := by
  rcases change with ⟨armed, input, rfl⟩
  rfl

theorem isOpen_rearmed (before after : Recorder) (change : Rearmed before after) :
    after.isOpen = before.isOpen := by
  rcases change with ⟨armed, input, rfl⟩
  rfl

theorem native_rewired (before after : Screen) (change : Rewired before after) :
    NativeTerminal.native after = NativeTerminal.native before := by
  rcases change with ⟨device, rfl⟩
  rfl

theorem mirrored_of_native {bindings : Bindings} {session : Session} {panes : Panes}
    {cbreak echo : Bool} (distinct : bindings.handles.Nodup)
    (same : ⟨panes.flags, cbreak, echo⟩ = bindings.native session) :
    Mirrored bindings session panes cbreak echo := by
  simp only [Bindings.native, Native.mk.injEq] at same
  rcases same with ⟨flags, modes⟩
  refine ⟨distinct, fun window => ?_, fun bound member pane live => ?_, modes⟩
  · rw [← not_iff_not, ← Bindings.flags_eq_none_iff, ← flags, Panes.flags_eq_none_iff]
    simp [Panes.mem_live_iff, Option.eq_none_iff_forall_ne_some]
  · have found := Panes.flags_of_get? ((Panes.mem_live_iff _ _ _).mp live)
    rw [flags, Bindings.flags_of_mem distinct member] at found
    simpa [Window.inputFlags, Pane.inputFlags, eq_comm] using found

/-- The terminal of a running session has exactly the windows that are bound, and no command or read
finds a handle invalid, whatever fails on the way. Every call on a recorder, except those that open
it, is made while it is open. -/
theorem terminal_mirrors_session :
    (∀ machine : Machine Recorder, machine.Reachable Rearmed →
      (∀ session, machine.phase = .active session →
        machine.terminal.isOpen = true ∧ ∃ bindings, machine.bindings = some bindings ∧
          Mirrored bindings session machine.terminal.panes machine.terminal.cbreak
            machine.terminal.echo) ∧
      (∀ command, (machine.execute command).1 ≠ .error (.fault .invalidHandle) ∧
        OpenCalls machine.terminal (machine.execute command).2.terminal) ∧
      (∀ shape, (machine.read shape).1 ≠ .error (.fault .invalidHandle) ∧
        OpenCalls machine.terminal (machine.read shape).2.terminal)) ∧
    (∀ machine : Machine Screen, machine.Reachable Rewired →
      (∀ session, machine.phase = .active session →
        ∃ bindings, machine.bindings = some bindings ∧
          Mirrored bindings session machine.terminal.panes machine.terminal.cbreak
            machine.terminal.echo) ∧
      (∀ command, (machine.execute command).1 ≠ .error (.fault .invalidHandle)) ∧
      (∀ shape, (machine.read shape).1 ≠ .error (.fault .invalidHandle))) := by
  constructor
  · intro machine reached
    have agrees := reached.agrees native_rearmed
    have opened := reached.isOpen isOpen_rearmed
    refine ⟨fun session running => ⟨opened (by rw [running]; rfl), ?_⟩, fun command => ⟨?_, ?_⟩,
      fun shape => ⟨?_, ?_⟩⟩
    · rcases agrees.bound running with ⟨bindings, bound, distinct, same⟩
      exact ⟨bindings, bound, mirrored_of_native distinct same⟩
    · exact (execute_native agrees command).2
    · exact (execute_whileOpen opened command).1
    · exact (read_native agrees shape).2
    · exact (read_whileOpen opened shape).1
  · intro machine reached
    have agrees := reached.agrees native_rewired
    refine ⟨fun session running => ?_, fun command => ?_, fun shape => ?_⟩
    · rcases agrees.bound running with ⟨bindings, bound, distinct, same⟩
      exact ⟨bindings, bound, mirrored_of_native distinct same⟩
    · exact (execute_native agrees command).2
    · exact (read_native agrees shape).2

/-- Windows that could not be prepared are gone again, from a recorder that fails to set a flag and
from a screen that cannot draw a border. -/
theorem terminal_mirrors_session_after_rollback :
    let recorded := (execute (execute (.new (Recorder.failAfter default .setNoDelay 1))
      (.init {})).2 (.act (.addWindow "w" .origin ⟨3, 3⟩ none))).2
    let device : Screen.Device := { output := { room := some 0 } }
    let drawn := (execute (execute (.new (Screen.headless device ⟨24, 80⟩))
      (.init {})).2 (.act (.addWindow "w" .origin ⟨3, 3⟩ (some { glyphs := .ascii })))).2
    recorded.phase = .active (.fresh {}) ∧
      recorded.terminal.history.head? = some (.destroyWindow 1) ∧
      (recorded.terminal.isOpen = true ∧ ∃ bindings, recorded.bindings = some bindings ∧
        Mirrored bindings (.fresh {}) recorded.terminal.panes recorded.terminal.cbreak
          recorded.terminal.echo) ∧
      drawn.phase = .active (.fresh {}) ∧
      (∃ bindings, drawn.bindings = some bindings ∧
        Mirrored bindings (.fresh {}) drawn.terminal.panes drawn.terminal.cbreak
          drawn.terminal.echo) := by
  intro recorded device drawn
  have recordedReached : recorded.Reachable Rearmed := .execute (.execute (.new _) _) _
  have drawnReached : drawn.Reachable Rewired := .execute (.execute (.new _) _) _
  have recordedPhase : recorded.phase = .active (.fresh {}) := rfl
  have drawnPhase : drawn.phase = .active (.fresh {}) := rfl
  exact ⟨recordedPhase, rfl,
    (terminal_mirrors_session.1 recorded recordedReached).1 _ recordedPhase, drawnPhase,
    (terminal_mirrors_session.2 drawn drawnReached).1 _ drawnPhase⟩

end Machine

end TerminalSession
