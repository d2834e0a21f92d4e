import TerminalSession.Proofs.CursorsInside

/-! # Windows that are gone

A handle means nothing once its window was given back, or before there is a window of that number. A
call about such a handle is refused before it does anything: nothing is written or flushed, no event
is heard, and the screen is as it was. Only clearing the full screen writes before it looks. -/

namespace TerminalSession.Screen

variable {screen : Screen} {window : Handle} {call : Call}

theorem pane_bind_gone {α : Type} (next : Pane → Work α)
    (gone : screen.panes.get? window = none) :
    Ends (pane window >>= next) screen (fun _ _ => False)
      (fun fault stop => fault = .invalidHandle ∧ stop = screen) := by
  apply ends_pane_bind ⟨rfl, rfl⟩
  intro pane found
  cases gone.symm.trans found

theorem answer_gone (about : call.window? = some window)
    (gone : screen.panes.get? window = none) (other : call ≠ .clear 0) :
    Ends (answer call) screen (fun _ _ => False)
      (fun fault stop => fault = .invalidHandle ∧ stop = screen) := by
  cases call with
  | openSession | closeSession | setRawMode | setCursor | createWindow | startColor
  | allocatePair | specialKeys => cases about
  | clear cleared =>
      cases about
      have apart : window ≠ 0 := by
        intro same
        exact other (congrArg Call.clear same)
      simp only [answer, apart, if_false]
      exact pane_bind_gone _ gone
  | _ =>
      cases about
      exact pane_bind_gone _ gone

/-- Clearing the full screen writes before it looks, so of a screen whose full window is gone the
output changes. Nothing else does, and the call fails. -/
theorem clear_gone (gone : screen.panes.get? 0 = none) :
    Ends (answer (.clear 0)) screen (fun _ _ => False)
      (fun _ stop => ∃ output, stop = { screen with device.output := output } ∧
        output.flushes = screen.device.output.flushes) := by
  simp only [answer, if_true, ends_bind]
  apply ends_write
  · intro room
    apply ends_pane_bind ⟨_, rfl, rfl⟩
    intro pane found
    cases gone.symm.trans found
  · intro bytes
    exact ⟨_, rfl, rfl⟩

/-- A call about a window that is gone is refused and changes nothing, on every screen. The one
exception is to clear the full screen after it was given back: that fails too, and changes nothing
but the output, without flushing it. -/
theorem gone_windows_are_refused (about : call.window? = some window)
    (gone : screen.panes.get? window = none) :
    (call ≠ .clear 0 →
      perform call screen = { answer := .error .invalidHandle, terminal := screen }) ∧
    (call = .clear 0 → (perform call screen).answer.isOk = false ∧
      ∃ output, (perform call screen).terminal = { screen with device.output := output } ∧
        output.flushes = screen.device.output.flushes) := by
  constructor
  · intro other
    apply perform_rule (motive := fun reply =>
      reply = { answer := .error .invalidHandle, terminal := screen })
    apply (answer_gone about gone other).mono
    · intro _ _ never
      exact never.elim
    · intro _ _ refused
      cases refused.1
      cases refused.2
      rfl
  · intro clears
    cases clears
    cases about
    apply perform_rule (motive := fun reply => reply.answer.isOk = false ∧
      ∃ output, reply.terminal = { screen with device.output := output } ∧
        output.flushes = screen.device.output.flushes)
    apply (clear_gone gone).mono
    · intro _ _ never
      exact never.elim
    · intro _ _ failed
      exact ⟨rfl, failed⟩

/-- A window that was given back, a number that no window has had, and the full screen. -/
theorem gone_windows_are_refused_after_destroying :
    let opened := (perform .openSession (headless {} ⟨2, 4⟩)).terminal
    let made := (perform (.createWindow ⟨1, 2⟩ .origin) opened).terminal
    let left := (perform (.destroyWindow 0) (perform (.destroyWindow 1) made).terminal).terminal
    perform (.putText 1 "x") left = { answer := .error .invalidHandle, terminal := left } ∧
      perform (.readInput 7) left = { answer := .error .invalidHandle, terminal := left } ∧
      (perform (.clear 0) left).answer.isOk = false := by
  intro opened made left
  have first : left.panes.get? 1 = none := rfl
  have second : left.panes.get? 7 = none := rfl
  have full : left.panes.get? 0 = none := rfl
  exact ⟨(gone_windows_are_refused rfl first).1 (by decide),
    (gone_windows_are_refused rfl second).1 (by decide),
    ((gone_windows_are_refused rfl full).2 rfl).1⟩

/-- What clears the full screen is sent even if the full screen was given back. -/
theorem clearing_gone_screen_writes :
    ¬ ∀ screen, Operated (fun _ _ => True) screen → ∀ (call : Call) window,
      call.window? = some window → screen.panes.get? window = none →
        perform call screen = { answer := .error .invalidHandle, terminal := screen } := by
  intro always
  have opened : Operated (fun _ _ => True) (perform .openSession (headless {} ⟨2, 4⟩)).terminal :=
    .opened rfl
  have left := opened.call (.destroyWindow 0) trivial
  have unchanged := always _ left (.clear 0) 0 rfl rfl
  have written := congrArg (fun reply => reply.terminal.device.output.written) unchanged
  exact absurd written (by decide)

end TerminalSession.Screen
