import TerminalSession.Proofs.Facade
import TerminalSession.Recorder

/-! # The facade of a recorder

A recorder that is not armed carries out every call, and its panes change as the facade says. -/

namespace TerminalSession.Recorder

def facade (recorder : Recorder) : Facade where
  screen := recorder.screen
  frames := recorder.panes.frames
  next := recorder.panes.next
  pairs := recorder.pairs

variable {recorder : Recorder} {call : Call} {window : Handle}

/-- The call was answered in this way, and the facade changed accordingly. -/
def Obeys (recorder : Recorder) (call : Call) (given : call.Answer)
    (reply : Except Fault call.Answer × Recorder) : Prop :=
  ∃ after, reply = (.ok given, after) ∧ after.armed = recorder.armed ∧
    after.facade = recorder.facade.after call

theorem onPane_obeys {given : call.Answer} {frame : Frame} {use : Pane → call.Answer × Pane}
    {edit : Frame → Frame} (there : recorder.panes.frames window = some frame)
    (answers : ∀ pane, pane.frame = frame → (use pane).1 = given)
    (changes : recorder.facade.after call = recorder.facade.change window edit)
    (edits : ∀ pane, (use pane).2.frame = edit pane.frame) :
    recorder.Obeys call given (recorder.onPane window use) := by
  rcases Panes.get?_of_frames there with ⟨pane, found, framed⟩
  have used : recorder.onPane window use =
      (.ok given, { recorder with panes := recorder.panes.set window (use pane).2 }) := by
    simp only [onPane, found, answers pane framed]
  refine ⟨_, used, rfl, ?_⟩
  rw [changes, Facade.change]
  simp only [facade, Panes.frames_set found (edits pane), Panes.next_set]

theorem onPane_obeys_quiet {given : call.Answer} {frame : Frame}
    {use : Pane → call.Answer × Pane} (there : recorder.panes.frames window = some frame)
    (answers : ∀ pane, pane.frame = frame → (use pane).1 = given)
    (quiet : ∀ pane, (use pane).2.frame = pane.frame)
    (still : recorder.facade.after call = recorder.facade) :
    recorder.Obeys call given (recorder.onPane window use) :=
  onPane_obeys there answers
    (still.trans (recorder.facade.change_of_eq window fun _ => rfl).symm) quiet

theorem answer_obeys {given : call.Answer} (said : recorder.facade.answer? call = some given) :
    recorder.Obeys call given (answer call recorder) := by
  cases call with
  | openSession =>
      cases said
      refine ⟨_, rfl, rfl, ?_⟩
      simp only [facade, Facade.after, Panes.frames, Panes.view_ofScreen]
      rfl
  | createWindow size position =>
      cases said
      refine ⟨_, rfl, rfl, ?_⟩
      simp only [facade, Facade.after, Panes.frames, Panes.view_add, Panes.next_add]
      rfl
  | destroyWindow window =>
      rcases Option.map_eq_some_iff.mp said with ⟨frame, there, same⟩
      cases same
      rcases Panes.get?_of_frames there with ⟨pane, found, _⟩
      refine ⟨{ recorder with panes := recorder.panes.remove window }, ?_, rfl, ?_⟩
      · simp only [answer, found]
      · simp only [facade, Facade.after, Panes.frames, Panes.view_remove, Panes.next_remove]
  | allocatePair foreground background =>
      simp only [Facade.answer?] at said
      split at said
      · rename_i free
        cases said
        have room : recorder.pairs.size < pairLimit := Nat.lt_trans free (by decide)
        refine ⟨{ recorder with pairs := recorder.pairs.push (foreground, background) }, ?_, rfl,
          rfl⟩
        simp only [answer, room, if_true, Array.size_push]
        rfl
      · cases said
  | readInput window => cases said
  | closeSession | setRawMode | setCursor | startColor | specialKeys =>
      cases said
      exact ⟨_, rfl, rfl, rfl⟩
  | windowPosition window =>
      rcases Option.map_eq_some_iff.mp said with ⟨frame, there, rfl⟩
      simp only [answer]
      apply onPane_obeys_quiet there
      · intro _ framed
        exact congrArg Frame.origin framed
      · intro _
        rfl
      · rfl
  | windowSize window =>
      rcases Option.map_eq_some_iff.mp said with ⟨frame, there, rfl⟩
      simp only [answer]
      apply onPane_obeys_quiet there
      · intro _ framed
        exact congrArg Frame.size framed
      · intro _
        rfl
      · rfl
  | resizeWindow | setKeypad | setNoDelay | applyAttribute =>
      rcases Option.map_eq_some_iff.mp said with ⟨frame, there, rfl⟩
      simp only [answer]
      apply onPane_obeys there
      · intro _ _
        rfl
      · rfl
      · intro _
        rfl
  | _ =>
      rcases Option.map_eq_some_iff.mp said with ⟨frame, there, rfl⟩
      simp only [answer]
      apply onPane_obeys_quiet there
      · intro _ _
        rfl
      · intro _
        rfl
      · rfl

theorem perform_of_disarmed (call : Call) (disarmed : recorder.armed = none) :
    perform call recorder =
      { answer := (answer call { recorder with history := call :: recorder.history }).1
        terminal := (answer call { recorder with history := call :: recorder.history }).2 } := by
  unfold perform
  split
  · rfl
  · simp only [disarmed, trigger]

instance : FacadeTerminal Recorder where
  facade := facade
  Sound recorder := recorder.armed = none
  obeys {call given before} disarmed said := by
    have noted :
        ({ before with history := call :: before.history } : Recorder).facade.answer? call =
          some given := said
    rcases answer_obeys noted with ⟨after, answered, armed, changed⟩
    refine ⟨after, [], ?_, armed.trans disarmed, changed⟩
    change perform call before = _
    rw [perform_of_disarmed call disarmed, answered]

end TerminalSession.Recorder
