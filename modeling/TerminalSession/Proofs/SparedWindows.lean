import TerminalSession.Proofs.CursorsInside
import TerminalSession.Proofs.NativeAgreement
import TerminalSession.Proofs.OtherWindows

/-! # Recorders and screens spare other windows

A call on a recorder uses at most the pane it is about, and a read uses none. A screen draws only in
the window it was called for. While it listens it may get another size, and that is the size of the
window of the full screen, whichever window the read is for. -/

namespace TerminalSession

theorem Call.StaysWithin.about {call : Call} {window other : Handle}
    (within : call.StaysWithin window) (about : call.window? = some other) : other = window := by
  cases call with
  | openSession | closeSession | createWindow | readInput => exact within.elim
  | _ => exact within other about

namespace Recorder

variable {call : Call} {window : Handle}

theorem onPane_spares {α : Type} (recorder : Recorder) (window : Handle) (use : Pane → α × Pane) :
    recorder.panes.Spares window (recorder.onPane window use).2.panes := by
  unfold onPane
  split
  · exact .refl _ _
  · exact Panes.spares_set _ _ _

theorem answer_spares (within : call.StaysWithin window) (recorder : Recorder) :
    recorder.panes.Spares window (answer call recorder).2.panes := by
  cases about : call.window? with
  | none =>
      cases call with
      | openSession | closeSession | createWindow => exact within.elim
      | allocatePair foreground background =>
          simp only [answer]
          split
          · exact .refl _ _
          · exact .refl _ _
      | setRawMode | setCursor | startColor | specialKeys => exact .refl _ _
      | _ => cases about
  | some other =>
      cases within.about about
      cases call with
      | readInput => exact within.elim
      | destroyWindow =>
          cases about
          simp only [answer]
          split
          · exact .refl _ _
          · exact Panes.spares_remove _ _
      | openSession | closeSession | createWindow | allocatePair => cases about
      | setRawMode | setCursor | startColor | specialKeys => cases about
      | _ =>
          cases about
          exact onPane_spares _ _ _

theorem perform_spares (within : call.StaysWithin window) (recorder : Recorder) :
    recorder.panes.Spares window (perform call recorder).terminal.panes := by
  rcases perform_cases call recorder with failed | ⟨armed, done⟩
  · rw [failed]
    exact .refl _ _
  · rw [done]
    exact answer_spares within (recorder.noted call armed)

theorem panes_readInput (window : Handle) (recorder : Recorder) :
    (perform (.readInput window) recorder).terminal.panes = recorder.panes := by
  rcases perform_cases (.readInput window) recorder with failed | ⟨armed, done⟩
  · rw [failed]
    rfl
  · rw [done]
    simp only [answer]
    split
    · rfl
    · rfl
    · rfl

instance : PaneTerminal Recorder where
  panes := panes
  flags_panes _ := rfl
  spares := perform_spares
  created := by
    intro size position window before after notes reply
    rcases perform_cases (.createWindow size position) before with failed | ⟨armed, done⟩
    · rw [show Terminal.perform _ before = _ from failed] at reply
      cases reply
    · rw [show Terminal.perform _ before = _ from done] at reply
      cases reply
      exact Panes.spares_add _ _
  uncreated := by
    intro size position fault before after notes reply
    rcases perform_cases (.createWindow size position) before with failed | ⟨armed, done⟩
    · rw [show Terminal.perform _ before = _ from failed] at reply
      cases reply
      rfl
    · rw [show Terminal.perform _ before = _ from done] at reply
      cases reply
  found _ _ _ pane := pane
  found_self _ _ _ := rfl
  reads := by
    intro window before
    rw [show (Terminal.perform (.readInput window) before).terminal.panes = before.panes from
      panes_readInput window before]
    exact (Panes.Spares.refl _ _).upTo fun _ _ => rfl

end Recorder

namespace Screen

variable {relation : Screen → Screen → Prop} {call : Call} {window : Handle}

/-! ## Calls that stay within a window -/

def Confined (window : Handle) (before after : Screen) : Prop :=
  before.panes.Spares window after.panes

instance : Std.Refl (Confined window) := ⟨fun screen => .refl _ screen.panes⟩

instance : IsTrans Screen (Confined window) := ⟨fun _ _ _ => .trans⟩

theorem ignores_confined : IgnoresWindow (Confined window) window where
  output := fun screen _ => .refl _ screen.panes
  panes := fun _ _ same => same

theorem answer_confined (within : call.StaysWithin window) :
    Leaves (Confined window) (answer call) := by
  cases about : call.window? with
  | none =>
      cases call with
      | openSession | closeSession | createWindow => exact within.elim
      | setRawMode cbreak echo => exact Leaves.modify fun screen => .refl _ screen.panes
      | allocatePair foreground background =>
          exact Leaves.allocatePair (fun screen _ => .refl _ screen.panes) foreground background
      | setCursor | startColor | specialKeys =>
          exact Leaves.answer_writing ignores_confined.output rfl
      | _ => cases about
  | some other =>
      cases within.about about
      have draws : Draws call = true := by
        cases call with
        | readInput => exact within.elim
        | openSession | closeSession | setRawMode | allocatePair => cases about
        | _ => rfl
      exact Leaves.answer_about ignores_confined about draws

theorem perform_confined (within : call.StaysWithin window) (screen : Screen) :
    Confined window screen (perform call screen).terminal := by
  apply perform_rule (motive := fun reply => Confined window screen reply.terminal)
  exact answer_confined within screen

/-! ## Reads -/

/-- What a read from another window makes of a window, if this happened in the meantime: the full
screen has the size that the terminal has got. -/
def resized (lost : List Occurrence) (window : Handle) (pane : Pane) : Pane :=
  if window = 0 then { pane with size := lost.foldl Occurrence.resized pane.size } else pane

def sizeless (window : Handle) (pane : Pane) : Pane :=
  if window = 0 then { pane with size := ⟨0, 0⟩ } else pane

def Overlooks (window : Handle) (before after : Screen) : Prop :=
  ∀ other ≠ window,
    (after.panes.get? other).map (sizeless other) = (before.panes.get? other).map (sizeless other)

instance : Std.Refl (Overlooks window) := ⟨fun _ _ _ => rfl⟩

instance : IsTrans Screen (Overlooks window) where
  trans _ _ _ first second := fun other different =>
    (second other different).trans (first other different)

theorem ignores_overlooks : IgnoresWindow (Overlooks window) window where
  output := fun _ _ _ _ => rfl
  panes := fun _ _ same other different => by rw [same other different]

theorem codesOf_overlooks (keypad : Bool) (heard : Event) :
    Leaves (Overlooks window) (codesOf keypad heard) := by
  cases heard with
  | key press released => exact Leaves.pure _
  | other => exact Leaves.pure _
  | resize size =>
      refine (Leaves.modify ?_).bind fun _ => Leaves.pure _
      intro screen other _
      cases found : screen.panes.get? 0 with
      | none => rfl
      | some full =>
          simp only [Panes.get?_set found]
          split
          · rename_i same
            subst same
            rw [found]
            rfl
          · rfl

theorem readCode_overlooks : Leaves (Overlooks window) (readCode window) :=
  Leaves.readCode (fun _ _ _ _ => rfl) (fun _ _ _ _ => rfl) codesOf_overlooks
    (Leaves.takeIn ignores_overlooks fun _ _ _ _ => rfl)

theorem eq_resized {lost : List Occurrence} {before after : Option Pane}
    (alike : after.map (sizeless 0) = before.map (sizeless 0))
    (sizes : after.map Pane.size = (before.map Pane.size).map (lost.foldl Occurrence.resized)) :
    after = before.map (resized lost 0) := by
  cases before with
  | none => simpa using alike
  | some old =>
      cases after with
      | none => cases alike
      | some new =>
          simp only [Option.map_some, Option.some.injEq, sizeless, if_true] at alike sizes
          simp only [Option.map_some, Option.some.injEq, resized, if_true, ← sizes]
          calc new
            _ = { { new with size := ⟨0, 0⟩ } with size := new.size } := rfl
            _ = { { old with size := ⟨0, 0⟩ } with size := new.size } := by rw [alike]
            _ = { old with size := new.size } := rfl

/-- A read leaves the other windows alone, except that the full screen gets the size that the
terminal has got in the meantime. -/
theorem readInput_resizes (window : Handle) (screen : Screen) :
    let after := (perform (.readInput window) screen).terminal
    Panes.SparesUpTo (resized (consumed screen after)) window screen.panes after.panes := by
  have heard : Attends (fun _ => False) screen (perform (.readInput window) screen).terminal ∧
      Overlooks window screen (perform (.readInput window) screen).terminal := by
    apply perform_rule (motive := fun reply =>
      Attends (fun _ => False) screen reply.terminal ∧ Overlooks window screen reply.terminal)
    exact readCode_attends.and (readCode_overlooks screen)
  rcases heard with ⟨⟨lost, hears⟩, overlooked⟩
  intro after other different
  have gone : consumed screen after = lost := consumed_eq hears.events
  rw [gone]
  have alike := overlooked other different
  -- The size of the full screen is known from the events, and all else from what was overlooked.
  by_cases full : other = 0
  · subst full
    exact eq_resized alike hears.full
  · have plain : sizeless other = id := funext fun _ => if_neg full
    have same : resized lost other = id := funext fun _ => if_neg full
    rw [plain, Option.map_id, id_eq, id_eq] at alike
    rw [same, Option.map_id]
    exact alike

instance : PaneTerminal Screen where
  panes := panes
  flags_panes _ := rfl
  spares := perform_confined
  created := by
    intro size position window before after notes reply
    cases reply
    exact Panes.spares_add _ _
  uncreated reply := by cases reply
  found before after := resized (consumed before after)
  found_self terminal window pane := by
    have nothing : consumed terminal terminal = [] := consumed_eq rfl
    rw [nothing, resized]
    split
    · rfl
    · rfl
  reads := readInput_resizes

end Screen

namespace Machine

open Recorder Screen

/-- Whatever a running session does, and whether it succeeds or fails, the windows other than the
current one stay as they are, and so do their entries. Only a window that was made is new, and only
the full screen gets another size, when a read hears of it. -/
theorem actions_touch_current_window :
    (∀ machine : Machine Recorder, machine.Reachable Rearmed → ∀ session,
      machine.phase = .active session →
      ∃ bindings, machine.bindings = some bindings ∧ bindings.handles.Nodup ∧
        ∀ action,
          let next := (machine.execute (.act action)).2
          ∃ now, next.bindings = some now ∧
            Touches (fun _ pane => pane) machine.terminal.panes next.terminal.panes bindings now
              action (machine.execute (.act action)).1.isOk) ∧
    (∀ machine : Machine Screen, machine.Reachable Rewired → ∀ session,
      machine.phase = .active session →
      ∃ bindings, machine.bindings = some bindings ∧ bindings.handles.Nodup ∧
        ∀ action,
          let next := (machine.execute (.act action)).2
          ∃ now, next.bindings = some now ∧
            Touches (resized (consumed machine.terminal next.terminal)) machine.terminal.panes
              next.terminal.panes bindings now action
              (machine.execute (.act action)).1.isOk) := by
  constructor
  · intro machine reached session running
    rcases (reached.agrees native_rearmed).bound running with ⟨bindings, bound, distinct, _⟩
    exact ⟨bindings, bound, distinct, execute_touches running bound⟩
  · intro machine reached session running
    rcases (reached.agrees native_rewired).bound running with ⟨bindings, bound, distinct, _⟩
    exact ⟨bindings, bound, distinct, execute_touches running bound⟩

/-! A small window is current, and the terminal is about to get larger. -/

def behindSmallWindow : Machine Screen :=
  let screen := headless { events := [.event (.resize ⟨8, 8⟩)] } ⟨4, 4⟩
  let started := (execute (.new screen) (.init {})).2
  let added := (started.execute (.act (.addWindow "w" .origin ⟨3, 3⟩ none))).2
  (added.execute (.act (.setWindow "w"))).2

/-- A window that could not be prepared leaves the others of a recorder alone. While the small
window is read from, the full screen gets larger. -/
theorem full_screen_grows_behind_small_window :
    let recorded := (execute (.new (Recorder.failAfter default .setNoDelay 1)) (.init {})).2
    let adding : Action := .addWindow "w" .origin ⟨3, 3⟩ none
    let read := (behindSmallWindow.execute (.act .getInput)).2
    (∃ bindings now, recorded.bindings = some bindings ∧
      Touches (fun _ pane => pane) recorded.terminal.panes
        (recorded.execute (.act adding)).2.terminal.panes bindings now adding false) ∧
    (∃ bindings now, behindSmallWindow.bindings = some bindings ∧ bindings.handle = 1 ∧
      Touches (resized [.event (.resize ⟨8, 8⟩)]) behindSmallWindow.terminal.panes
        read.terminal.panes bindings now .getInput true) ∧
    read.terminal.panes.get? 0 = some { origin := .origin, size := ⟨8, 8⟩, keypad := true } := by
  intro recorded adding read
  have recordedReached : recorded.Reachable Rearmed := .execute (.new _) _
  have drawnReached : behindSmallWindow.Reachable Rewired :=
    .execute (.execute (.execute (.new _) _) _) _
  have refused : (recorded.execute (.act adding)).1.isOk = false := rfl
  have answered : (behindSmallWindow.execute (.act .getInput)).1.isOk = true := rfl
  have current : behindSmallWindow.bindings.map Bindings.handle = some 1 := rfl
  have heard : consumed behindSmallWindow.terminal read.terminal = [.event (.resize ⟨8, 8⟩)] :=
    consumed_eq rfl
  rcases actions_touch_current_window.1 recorded recordedReached _ rfl with
    ⟨small, smallBound, _, smallTouches⟩
  rcases smallTouches adding with ⟨smallNow, _, smallTouched⟩
  rcases actions_touch_current_window.2 behindSmallWindow drawnReached _ rfl with
    ⟨bindings, bound, _, touches⟩
  rcases touches .getInput with ⟨now, _, touched⟩
  rw [refused] at smallTouched
  rw [answered, heard] at touched
  rw [bound, Option.map_some, Option.some.injEq] at current
  exact ⟨⟨small, smallNow, smallBound, smallTouched⟩, ⟨bindings, now, bound, current, touched⟩, rfl⟩

end Machine

end TerminalSession
