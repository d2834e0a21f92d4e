import TerminalSession.Proofs.Facade
import TerminalSession.Proofs.ScreenWork

/-! # The facade of a screen

On a device that takes everything, drawing succeeds, and it leaves no trace in the facade. -/

namespace TerminalSession.Screen

def facade (screen : Screen) : Facade where
  screen := screen.size
  frames := screen.panes.frames
  next := screen.panes.next
  pairs := screen.pairs

structure Sound (screen : Screen) : Prop where
  room : screen.device.output.room = none
  flushesLeft : screen.device.output.flushesLeft = none
  headless : screen.ownsDevice = false

/-- On a sound screen with this facade the work succeeds, and the screen stays sound. -/
def Serves {α : Type} (facade : Facade) (work : Work α) (outcome : α → Facade → Prop) : Prop :=
  ∀ start, start.Sound → start.facade = facade →
    Ends work start (fun value stop => stop.Sound ∧ outcome value stop.facade) (fun _ _ => False)

def Smooth {α : Type} (facade : Facade) (work : Work α) : Prop :=
  Serves facade work fun _ after => after = facade

variable {shown : Facade} {window : Handle} {frame : Frame} {α β : Type}

/-! ## How work is put together

A sound screen only writes, on a device that takes everything that is written. -/

section

variable {outcome : α → Facade → Prop}

theorem Serves.mono {work : Work α} {weaker : α → Facade → Prop}
    (serves : Serves shown work outcome)
    (implies : ∀ value after, outcome value after → weaker value after) :
    Serves shown work weaker := by
  intro start sound same
  apply (serves start sound same).mono
  · intro value stop kept
    exact ⟨kept.1, implies value _ kept.2⟩
  · intro _ _ never
    exact never

theorem Serves.pure {value : α} (holds : outcome value shown) :
    Serves shown (Pure.pure value) outcome := by
  intro start sound same
  exact ⟨sound, same ▸ holds⟩

theorem Serves.get_bind {next : Screen → Work α}
    (rest : ∀ screen, screen.Sound → screen.facade = shown → Serves shown (next screen) outcome) :
    Serves shown (get >>= next) outcome := by
  intro start sound same
  rw [ends_bind, ends_get]
  exact rest start sound same start sound same

theorem Serves.pane_bind (there : shown.frames window = some frame) {next : Pane → Work α}
    (rest : ∀ pane, pane.frame = frame → Serves shown (next pane) outcome) :
    Serves shown (pane window >>= next) outcome := by
  intro start sound same
  subst same
  rcases Panes.get?_of_frames there with ⟨pane, found, framed⟩
  simp only [Screen.pane, bind_assoc, ends_bind, ends_get, found]
  exact rest pane framed start sound rfl

theorem Smooth.before {work : Work β} {next : β → Work α} (first : Smooth shown work)
    (second : ∀ value, Serves shown (next value) outcome) :
    Serves shown (work >>= next) outcome := by
  intro start sound same
  rw [ends_bind]
  apply (first start sound same).mono
  · intro value middle kept
    exact second value middle kept.1 kept.2
  · intro _ _ never
    exact never

theorem Serves.modify {change : Screen → Screen} {outcome : PUnit → Facade → Prop}
    (sound : ∀ screen, screen.Sound → (change screen).Sound)
    (facade : ∀ screen, screen.facade = shown → outcome ⟨⟩ (change screen).facade) :
    Serves shown (modify change) outcome := by
  intro start before same
  exact ⟨sound start before, facade start same⟩

theorem Serves.setPane {pane : Pane} {edit : Frame → Frame}
    (there : shown.frames window = some frame) (edited : pane.frame = edit frame) :
    Serves shown (setPane window pane) fun _ after => after = shown.change window edit := by
  apply Serves.modify
  · intro screen sound
    exact ⟨sound.room, sound.flushesLeft, sound.headless⟩
  · intro screen same
    subst same
    rcases Panes.get?_of_frames there with ⟨old, found, framed⟩
    rw [← framed] at edited
    rw [Facade.change]
    simp only [facade, Panes.frames_set found edited, Panes.next_set]

end

/-! ## Drawing -/

namespace Smooth

theorem forM {step : α → Work PUnit} (body : ∀ member, Smooth shown (step member))
    (members : List α) : Smooth shown (members.forM step) := by
  induction members with
  | nil => exact Serves.pure rfl
  | cons member rest induction => exact (body member).before fun _ => induction

theorem write (instruction : Instruction) : Smooth shown (write instruction) := by
  intro start sound same
  unfold Ends Screen.write Output.write
  simp only [sound.room]
  exact ⟨⟨rfl, sound.flushesLeft, sound.headless⟩, same⟩

theorem flush : Smooth shown flush := by
  intro start sound same
  unfold Ends Screen.flush Output.flush
  simp only [sound.flushesLeft]
  exact ⟨⟨sound.room, rfl, sound.headless⟩, same⟩

theorem writeAll (instructions : List Instruction) : Smooth shown (writeAll instructions) :=
  forM write instructions

theorem setRendition (rendition : Rendition) : Smooth shown (setRendition rendition) :=
  Serves.get_bind fun _ _ _ => writeAll _

theorem setPane {pane : Pane} (there : shown.frames window = some pane.frame) :
    Smooth shown (setPane window pane) := by
  have still : shown.change window id = shown := shown.change_of_eq window fun _ => rfl
  have changed : Serves shown (Screen.setPane window pane)
      fun _ after => after = shown.change window id := Serves.setPane there rfl
  rw [still] at changed
  exact changed

theorem putCell (there : shown.frames window = some frame) (character : Char) :
    Smooth shown (putCell window character) := by
  apply Serves.pane_bind there
  intro pane framed
  apply (writeAll _).before
  intro _
  apply setPane
  rw [there, ← framed]
  rfl

theorem blank (there : shown.frames window = some frame) : Smooth shown (blank window) := by
  apply Serves.pane_bind there
  intro pane framed
  apply (setRendition _).before
  intro _
  apply (writeAll _).before
  intro _
  apply setPane
  rw [there, ← framed]
  rfl

/-- A headless screen ends its session with a reset of what is shown. -/
theorem closeSession : Smooth shown closeSession := by
  apply Serves.get_bind
  intro screen _ _
  split
  · have ended : Smooth shown (modify ({ · with isOpen := false })) :=
      Serves.modify (fun _ sound => ⟨sound.room, sound.flushesLeft, sound.headless⟩)
        fun _ same => same
    apply ended.before
    intro _
    apply (writeAll _).before
    intro _
    apply Serves.get_bind
    intro screen sound _
    simp only [sound.headless]
    exact flush
  · exact Serves.pure rfl

end Smooth

/-! ## Calls

A call changes one window, or all it does is to draw in its window. -/

def Paints : Call → Bool
  | .drawBorder .. | .putChar .. | .putText .. | .horizontalLine .. | .verticalLine .. => true
  | .moveCursor .. | .clear _ | .erase _ | .refresh _ => true
  | _ => false

theorem Smooth.answer {call : Call} (paints : Paints call = true)
    (about : call.window? = some window) (there : shown.frames window = some frame) :
    Smooth shown (answer call) := by
  cases call with
  | drawBorder _ border =>
      cases about
      apply Serves.pane_bind there
      intro pane _
      split
      · apply (setRendition _).before
        intro _
        exact writeAll _
      · exact Serves.pure rfl
  | putChar _ character =>
      cases about
      apply Serves.pane_bind there
      intro pane _
      apply (setRendition _).before
      intro _
      exact putCell there character
  | putText _ text =>
      cases about
      apply Serves.pane_bind there
      intro pane _
      apply (setRendition _).before
      intro _
      exact forM (putCell there) _
  | horizontalLine | verticalLine =>
      cases about
      apply Serves.pane_bind there
      intro pane _
      apply (setRendition _).before
      intro _
      exact writeAll _
  | moveCursor _ position =>
      cases about
      apply Serves.pane_bind there
      intro pane framed
      apply setPane
      rw [there, ← framed]
      rfl
  | clear _ =>
      cases about
      simp only [Screen.answer]
      split
      · apply (write _).before
        intro _
        exact blank there
      · exact blank there
  | erase _ =>
      cases about
      exact blank there
  | refresh _ =>
      cases about
      apply Serves.pane_bind there
      intro pane _
      apply (write _).before
      intro _
      exact flush
  | _ => cases paints

def Obeys (facade : Facade) (call : Call) (given : call.Answer) (work : Work call.Answer) : Prop :=
  Serves facade work fun value after => value = given ∧ after = facade.after call

theorem obeys_of_smooth {call : Call} {given : call.Answer} {work : Work call.Answer}
    (answers : ∀ value, value = given) (still : shown.after call = shown)
    (smooth : Smooth shown work) : Obeys shown call given work := by
  apply smooth.mono
  intro value after same
  exact ⟨answers value, same.trans still.symm⟩

theorem modifyPane_serves {edit : Frame → Frame} {change : Pane → Pane}
    (there : shown.frames window = some frame)
    (edits : ∀ pane, (change pane).frame = edit pane.frame) :
    Serves shown (do setPane window (change (← pane window)))
      fun value after => value = () ∧ after = shown.change window edit := by
  apply Serves.pane_bind there
  intro pane framed
  have edited : (change pane).frame = edit frame := by rw [edits, framed]
  apply (Serves.setPane there edited).mono
  intro _ after changed
  exact ⟨rfl, changed⟩

theorem openSession_obeys : Obeys shown .openSession (0 : Nat) openSession := by
  apply Serves.get_bind
  intro screen sound same
  simp only [sound.headless]
  intro start sound same
  refine ⟨⟨sound.room, sound.flushesLeft, sound.headless⟩, rfl, ?_⟩
  rw [← same]
  simp only [facade, Facade.after, Panes.frames, Panes.view_ofScreen]
  rfl

theorem createWindow_obeys (size : Size) (origin : Position) :
    Obeys shown (.createWindow size origin) shown.next (answer (.createWindow size origin)) := by
  intro start sound same
  subst same
  refine ⟨⟨sound.room, sound.flushesLeft, sound.headless⟩, rfl, ?_⟩
  simp only [facade, Facade.after, Panes.frames, Panes.view_add, Panes.next_add]
  rfl

theorem destroyWindow_obeys (there : shown.frames window = some frame) :
    Obeys shown (.destroyWindow window) () (answer (.destroyWindow window)) := by
  apply Serves.pane_bind there
  intro pane framed start sound same
  subst same
  refine ⟨⟨sound.room, sound.flushesLeft, sound.headless⟩, rfl, ?_⟩
  simp only [facade, Facade.after, Panes.frames, Panes.view_remove, Panes.next_remove]

theorem allocatePair_obeys {foreground background : Color} (free : shown.pairs.size < pairLimit) :
    Obeys shown (.allocatePair foreground background) (shown.pairs.size + 1)
      (answer (.allocatePair foreground background)) := by
  apply Serves.get_bind
  intro screen sound same
  subst same
  have room : screen.pairs.size < pairLimit := free
  simp only [room, if_true]
  intro start sound same
  refine ⟨⟨sound.room, sound.flushesLeft, sound.headless⟩, rfl, ?_⟩
  rw [← same]
  rfl

theorem answer_obeys {call : Call} {given : call.Answer} (said : shown.answer? call = some given) :
    Obeys shown call given (answer call) := by
  cases call with
  | openSession =>
      cases said
      exact openSession_obeys
  | createWindow size origin =>
      cases said
      exact createWindow_obeys size origin
  | destroyWindow window =>
      rcases Option.map_eq_some_iff.mp said with ⟨frame, there, _⟩
      exact destroyWindow_obeys there
  | allocatePair foreground background =>
      simp only [Facade.answer?] at said
      split at said
      · rename_i free
        cases said
        exact allocatePair_obeys free
      · cases said
  | readInput window => cases said
  | closeSession =>
      apply obeys_of_smooth (fun _ => rfl) rfl
      exact Smooth.closeSession
  | setRawMode cbreak echo =>
      apply obeys_of_smooth (fun _ => rfl) rfl
      apply Serves.modify
      · intro _ sound
        exact ⟨sound.room, sound.flushesLeft, sound.headless⟩
      · intro _ same
        exact same
  | setCursor visibility =>
      apply obeys_of_smooth (fun _ => rfl) rfl
      apply (Smooth.writeAll _).before
      intro _
      exact Smooth.flush
  | startColor =>
      apply obeys_of_smooth (fun _ => rfl) rfl
      exact Serves.pure rfl
  | specialKeys =>
      cases said
      exact Serves.pure ⟨rfl, rfl⟩
  | windowPosition window =>
      rcases Option.map_eq_some_iff.mp said with ⟨frame, there, same⟩
      apply Serves.pane_bind there
      intro pane framed
      exact Serves.pure ⟨same ▸ congrArg Frame.origin framed, rfl⟩
  | windowSize window =>
      rcases Option.map_eq_some_iff.mp said with ⟨frame, there, same⟩
      apply Serves.pane_bind there
      intro pane framed
      exact Serves.pure ⟨same ▸ congrArg Frame.size framed, rfl⟩
  | resizeWindow | setKeypad | setNoDelay | applyAttribute =>
      rcases Option.map_eq_some_iff.mp said with ⟨frame, there, _⟩
      exact modifyPane_serves there fun _ => rfl
  | _ =>
      rcases Option.map_eq_some_iff.mp said with ⟨frame, there, _⟩
      apply obeys_of_smooth (fun _ => rfl) rfl
      exact Smooth.answer rfl rfl there

instance : FacadeTerminal Screen where
  facade := facade
  Sound := Sound
  obeys {call given before} sound said := by
    apply perform_rule
      (motive := fun reply => ∃ after notes, reply = ⟨.ok given, after, notes⟩ ∧ Sound after ∧
        after.facade = before.facade.after call)
    apply (answer_obeys said before sound rfl).mono
    · intro value stop obeyed
      rcases obeyed with ⟨sound, rfl, changed⟩
      exact ⟨stop, _, rfl, sound, changed⟩
    · intro _ _ never
      exact never.elim

end TerminalSession.Screen
