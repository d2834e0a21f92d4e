import TerminalSession.Proofs.NativeRecorder
import TerminalSession.Proofs.ServedCalls

/-! # Recorders are open while a session runs

A recorder does not mind calls while it is closed, but a machine never makes any. The call that
opens the recorder is the first of a session, and only the last one closes it. -/

namespace TerminalSession

namespace Recorder

variable {recorder : Recorder} {called : Call}

theorem onPane_frame {α : Type} (recorder : Recorder) (window : Handle) (use : Pane → α × Pane) :
    (recorder.onPane window use).2.isOpen = recorder.isOpen ∧
      (recorder.onPane window use).2.history = recorder.history := by
  unfold onPane
  cases recorder.panes.get? window with
  | none => exact ⟨rfl, rfl⟩
  | some pane => exact ⟨rfl, rfl⟩

theorem history_answer (called : Call) (recorder : Recorder) :
    (answer called recorder).2.history = recorder.history := by
  cases called with
  | destroyWindow window =>
      simp only [answer]
      cases recorder.panes.get? window <;> rfl
  | readInput window =>
      simp only [answer]
      cases recorder.panes.get? window <;> cases recorder.input <;> rfl
  | allocatePair foreground background =>
      simp only [answer]
      split <;> rfl
  | openSession | closeSession | setRawMode | setCursor | createWindow | startColor
  | specialKeys => rfl
  | _ => exact (onPane_frame recorder _ _).2

theorem isOpen_answer (inner : called.isInner = true) (recorder : Recorder) :
    (answer called recorder).2.isOpen = recorder.isOpen := by
  cases called with
  | openSession => cases inner
  | closeSession => cases inner
  | destroyWindow window =>
      simp only [answer]
      cases recorder.panes.get? window <;> rfl
  | readInput window =>
      simp only [answer]
      cases recorder.panes.get? window <;> cases recorder.input <;> rfl
  | allocatePair foreground background =>
      simp only [answer]
      split <;> rfl
  | setRawMode | setCursor | createWindow | startColor | specialKeys => rfl
  | _ => exact (onPane_frame recorder _ _).1

theorem history_perform (called : Call) (recorder : Recorder) :
    (perform called recorder).terminal.history = called :: recorder.history := by
  rcases perform_cases called recorder with failed | ⟨armed, done⟩
  · rw [failed]
    rfl
  · rw [done]
    exact history_answer called _

theorem isOpen_perform (inner : called.isInner = true) (recorder : Recorder) :
    (perform called recorder).terminal.isOpen = recorder.isOpen := by
  rcases perform_cases called recorder with failed | ⟨armed, done⟩
  · rw [failed]
    rfl
  · rw [done]
    exact isOpen_answer inner _

def WhileOpen (called : Call) (recorder : Recorder) : Prop :=
  called ≠ .openSession → recorder.isOpen = true

variable {start stop : Recorder} {calls : List Call}

theorem history_of_served {allowed : Call → Recorder → Prop}
    (served : Served allowed start calls stop) : stop.history = calls ++ start.history := by
  induction served with
  | nil => rfl
  | call before called fits induction =>
      rw [List.cons_append, ← induction]
      exact history_perform called _

theorem whileOpen_of_inner
    (served : Served (fun called _ => called.isInner = true) start calls stop)
    (opened : start.isOpen = true) :
    Served WhileOpen start calls stop ∧ stop.isOpen = true := by
  induction served with
  | nil => exact ⟨.nil, opened⟩
  | call before called inner induction =>
      refine ⟨.call induction.1 called fun _ => induction.2, ?_⟩
      rw [← induction.2]
      exact isOpen_perform inner _

theorem isOpen_opened {screen : Handle} {notes : List Log.Entry}
    (reply : perform .openSession start = ⟨.ok screen, stop, notes⟩) : stop.isOpen = true := by
  rcases perform_cases .openSession start with failed | ⟨armed, done⟩
  · rw [failed] at reply
    cases reply
  · rw [done] at reply
    cases reply
    rfl

theorem isOpen_unclosed {fault : Fault} {notes : List Log.Entry}
    (reply : perform .closeSession start = ⟨.error fault, stop, notes⟩) :
    stop.isOpen = start.isOpen := by
  rcases perform_cases .closeSession start with failed | ⟨armed, done⟩
  · rw [failed] at reply
    cases reply
    rfl
  · rw [done] at reply
    cases reply

/-- Calls that were made while the recorder was open, and are in its history. -/
def OpenCalls (start stop : Recorder) : Prop :=
  ∃ calls, stop.history = calls ++ start.history ∧ Served WhileOpen start calls stop

theorem openCalls_of_served (served : Served WhileOpen start calls stop) : OpenCalls start stop :=
  ⟨calls, history_of_served served, served⟩

end Recorder

namespace Machine

open Exchange Recorder

section

variable {host : Logged Recorder}

theorem confined_whileOpen {α : Type} {work : Exchange Recorder α} (confined : Confined work)
    (opened : host.terminal.isOpen = true) {start : Recorder} {calls : List Call}
    (earlier : Served WhileOpen start calls host.terminal) :
    Ends work host
      (fun _ stop => OpenCalls start stop.terminal ∧ stop.terminal.isOpen = true)
      (fun _ stop => OpenCalls start stop.terminal ∧ stop.terminal.isOpen = true) := by
  have inner : ∀ stop : Logged Recorder, InnerCalls host stop →
      OpenCalls start stop.terminal ∧ stop.terminal.isOpen = true := by
    rintro stop ⟨more, served⟩
    have both := whileOpen_of_inner served opened
    exact ⟨openCalls_of_served (earlier.append both.1), both.2⟩
  exact (confined host).mono (fun _ => inner) (fun _ => inner)

theorem openSession_whileOpen :
    Ends openSession host
      (fun _ stop => OpenCalls host.terminal stop.terminal ∧ stop.terminal.isOpen = true)
      (fun _ stop => OpenCalls host.terminal stop.terminal) := by
  have opening : Served WhileOpen host.terminal [.openSession]
      (Recorder.perform .openSession host.terminal).terminal :=
    .call .nil .openSession fun other => absurd rfl other
  rw [openSession_eq, ends_bind]
  refine ends_call (fun screen terminal notes log reply => ?_)
    (fun fault terminal notes log reply => ?_)
  -- once the recorder is open, what follows are calls inside the session
  · have opened := isOpen_opened reply
    have first := congrArg Reply.terminal reply ▸ opening
    have rest : AsksOnly (fun called => called.isInner = true)
        (prepareScreen screen : Exchange Recorder Bindings) :=
      prepareScreen_asksOnly rfl rfl rfl rfl
    exact (confined_whileOpen (rest.confined fun _ => id) opened first).mono (fun _ _ => id)
      (fun _ _ both => both.1)
  · exact openCalls_of_served (congrArg Reply.terminal reply ▸ opening)

theorem closeSession_whileOpen (opened : host.terminal.isOpen = true) :
    Ends closeSession host (fun _ stop => OpenCalls host.terminal stop.terminal)
      (fun _ stop => OpenCalls host.terminal stop.terminal ∧ stop.terminal.isOpen = true) := by
  have closing : Served WhileOpen host.terminal [.closeSession]
      (Recorder.perform .closeSession host.terminal).terminal :=
    .call .nil .closeSession fun _ => opened
  simp only [closeSession, ends_bind, ends_note]
  refine ends_call (fun _ terminal notes log reply => ?_)
    (fun fault terminal notes log reply => ⟨?_, ?_⟩)
  · exact openCalls_of_served (congrArg Reply.terminal reply ▸ closing)
  · exact openCalls_of_served (congrArg Reply.terminal reply ▸ closing)
  · exact (isOpen_unclosed reply).trans opened

/-- A command makes its calls on an open recorder, and leaves it open where a session runs. -/
theorem dispatch_whileOpen {start : Recorder} (same : host.terminal = start)
    {phase next : Phase} {bindings : Option Bindings} {command : Command}
    (opened : phase.isActive = true → start.isOpen = true) (leads : command.Leads phase next) :
    Ends (dispatch phase bindings command) host
      (fun _ stop => OpenCalls start stop.terminal ∧
        (next.isActive = true → stop.terminal.isOpen = true))
      (fun _ stop => OpenCalls start stop.terminal ∧
        (phase.isActive = true → stop.terminal.isOpen = true)) := by
  subst same
  cases leads with
  | init options =>
      simp only [dispatch, bind_pure_comp, ends_map]
      exact openSession_whileOpen.mono (fun _ _ both => ⟨both.1, fun _ => both.2⟩)
        (fun _ _ calls => ⟨calls, by simp [Phase.isActive]⟩)
  | deinit session =>
      simp only [dispatch, bind_pure_comp, ends_map]
      exact (closeSession_whileOpen (opened rfl)).mono
        (fun _ _ calls => ⟨calls, by simp [Phase.isActive]⟩)
        (fun _ _ both => ⟨both.1, fun _ => both.2⟩)
  | act met updated =>
      cases bindings with
      | none => exact ⟨openCalls_of_served .nil, opened⟩
      | some bindings =>
          simp only [dispatch, bind_pure_comp, ends_map]
          exact (confined_whileOpen (perform_confined _ _ _) (opened rfl) .nil).mono
            (fun _ _ both => ⟨both.1, fun _ => both.2⟩) (fun _ _ both => ⟨both.1, fun _ => both.2⟩)

end

theorem execute_whileOpen {machine : Machine Recorder}
    (opened : machine.phase.isActive = true → machine.terminal.isOpen = true)
    (command : Command) :
    OpenCalls machine.terminal (machine.execute command).2.terminal ∧
      ((machine.execute command).2.phase.isActive = true →
        (machine.execute command).2.terminal.isOpen = true) := by
  refine execute_rule machine command (fun refusal _ => ?_) (fun next log leads => ?_)
  · exact ⟨openCalls_of_served .nil, opened⟩
  · exact Ends.mono (dispatch_whileOpen rfl opened leads) (fun _ _ => id) (fun _ _ => id)

theorem read_whileOpen {machine : Machine Recorder}
    (opened : machine.phase.isActive = true → machine.terminal.isOpen = true)
    (shape : ReadShape) :
    OpenCalls machine.terminal (machine.read shape).2.terminal ∧
      ((machine.read shape).2.phase.isActive = true →
        (machine.read shape).2.terminal.isOpen = true) := by
  refine read_rule machine shape (fun refusal => ?_) (fun session bindings running bound => ?_)
  · exact ⟨openCalls_of_served .nil, opened⟩
  · have active : machine.phase.isActive = true := by rw [running]; rfl
    exact (confined_whileOpen (readBound_confined bindings shape) (opened active) .nil).mono
      (fun _ _ kept => ⟨kept.1, fun _ => kept.2⟩) (fun _ _ kept => ⟨kept.1, fun _ => kept.2⟩)

theorem Reachable.isOpen {world : Recorder → Recorder → Prop}
    (quiet : ∀ before after, world before after → after.isOpen = before.isOpen)
    {machine : Machine Recorder} (reached : machine.Reachable world) :
    machine.phase.isActive = true → machine.terminal.isOpen = true := by
  induction reached with
  | new terminal =>
      intro active
      cases active
  | execute reached command induction => exact (execute_whileOpen induction command).2
  | read reached shape induction => exact (read_whileOpen induction shape).2
  | disturb reached change induction =>
      intro active
      exact (quiet _ _ change).trans (induction active)

end Machine

end TerminalSession
