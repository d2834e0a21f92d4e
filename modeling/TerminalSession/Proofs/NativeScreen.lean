import TerminalSession.Proofs.Ends
import TerminalSession.Proofs.Native
import TerminalSession.Screen

/-! # Screens are faithful

Most of what a screen does is drawing and listening, and may fail at any byte and any event. None of
it touches the native state, so a failure in the middle leaves that as it was. -/

namespace TerminalSession

namespace Screen

def native (screen : Screen) : Native :=
  ⟨screen.panes.flags, screen.cbreak, screen.echo⟩

/-- The work leaves the native state as it is, whether it fails or not, and does not report a handle
of a window that is there. -/
def Steady {α : Type} (native : Native) (call : Call) (work : Work α) : Prop :=
  ∀ screen, screen.native = native → Ends work screen
    (fun _ stop => stop.native = native)
    (fun fault stop => stop.native = native ∧ native.Explains call fault)

section

variable {native : Native} {call : Call} {α β : Type}

theorem steady_pure (value : α) : Steady native call (pure value) := fun _ same => same

theorem steady_bind {work : Work α} {next : α → Work β} (first : Steady native call work)
    (second : ∀ value, Steady native call (next value)) : Steady native call (work >>= next) := by
  intro screen same
  rw [ends_bind]
  exact (first screen same).mono (fun value stop kept => second value stop kept) (fun _ _ => id)

theorem steady_device (error : DeviceError) :
    Steady native call (throw (.device error) : Work α) :=
  fun _ same => ⟨same, by simp [Native.Explains]⟩

theorem steady_modify {change : Screen → Screen}
    (kept : ∀ screen, (change screen).native = screen.native) :
    Steady native call (modify change) := fun screen same => (kept screen).trans same

theorem steady_forM {step : α → Work PUnit} (body : ∀ member, Steady native call (step member))
    (members : List α) : Steady native call (members.forM step) := by
  induction members with
  | nil => exact steady_pure _
  | cons member rest induction => exact steady_bind (body member) fun _ => induction

theorem steady_get_bind {next : Screen → Work α}
    (rest : ∀ screen, Steady native call (next screen)) : Steady native call (get >>= next) :=
  fun screen same => by
    rw [ends_bind, ends_get]
    exact rest screen screen same

/-! ## Writing and listening -/

theorem steady_write (instruction : Instruction) : Steady native call (write instruction) := by
  intro screen same
  unfold Ends write
  cases screen.device.output.write instruction with
  | mk result output =>
      cases result with
      | ok _ => exact same
      | error error => exact ⟨same, by simp [Native.Explains]⟩

theorem steady_flush : Steady native call flush := by
  intro screen same
  unfold Ends flush
  cases screen.device.output.flush with
  | mk result output =>
      cases result with
      | ok _ => exact same
      | error error => exact ⟨same, by simp [Native.Explains]⟩

theorem steady_switchRawMode : Steady native call switchRawMode := by
  intro screen same
  unfold Ends switchRawMode
  cases screen.device.switchRawMode with
  | mk result device =>
      cases result with
      | ok _ => exact same
      | error error => exact ⟨same, by simp [Native.Explains]⟩

theorem steady_writeAll (instructions : List Instruction) :
    Steady native call (writeAll instructions) := steady_forM steady_write instructions

theorem steady_setRendition (rendition : Rendition) :
    Steady native call (setRendition rendition) :=
  steady_get_bind fun _ => steady_writeAll _

theorem steady_takeCode : Steady native call takeCode := fun _ same => same

theorem steady_setEvents (events : List Occurrence) : Steady native call (setEvents events) :=
  steady_modify fun _ => rfl

/-! ## Drawing in a window -/

variable {window : Handle}

theorem steady_pane_bind (about : call.window? = some window) {next : Pane → Work α}
    (rest : ∀ pane, native.flags window = some pane.inputFlags →
      Steady native call (next pane)) : Steady native call (pane window >>= next) := by
  intro screen same
  simp only [pane, bind_assoc, ends_bind, ends_get]
  cases found : screen.panes.get? window with
  | none =>
      have absent : native.flags window = none := by
        rw [← same]
        exact (Panes.flags_eq_none_iff _ _).mpr found
      exact ⟨same, fun _ => ⟨window, about, absent⟩⟩
  | some pane =>
      have flags : native.flags window = some pane.inputFlags := by
        rw [← same]
        exact Panes.flags_of_get? found
      exact rest pane flags screen same

theorem native_setPane {screen : Screen} {pane : Pane}
    (flags : screen.native.flags window = some pane.inputFlags) :
    { screen with panes := screen.panes.set window pane }.native = screen.native := by
  cases found : screen.panes.get? window with
  | none =>
      have absent : screen.native.flags window = none :=
        (Panes.flags_eq_none_iff screen.panes window).mpr found
      rw [absent] at flags
      cases flags
  | some old =>
      have same : (screen.panes.set window pane).flags = screen.panes.flags := by
        rw [Panes.flags_set found, ← flags]
        exact Function.update_eq_self ..
      simp only [Screen.native, same]

theorem steady_setPane {pane : Pane} (flags : native.flags window = some pane.inputFlags) :
    Steady native call (setPane window pane) := by
  intro screen same
  rw [setPane, ends_modify]
  exact (native_setPane (same ▸ flags)).trans same

theorem steady_modifyPane (about : call.window? = some window) {change : Pane → Pane}
    (kept : ∀ pane, (change pane).inputFlags = pane.inputFlags) :
    Steady native call (do setPane window (change (← pane window))) := by
  refine steady_pane_bind about fun pane flags => ?_
  rw [← kept pane] at flags
  exact steady_setPane flags

theorem inputFlags_putCharacter (pane : Pane) (character : Char) :
    (putCharacter pane character).2.inputFlags = pane.inputFlags := rfl

theorem steady_putCell (about : call.window? = some window) (character : Char) :
    Steady native call (putCell window character) :=
  steady_pane_bind about fun pane flags =>
    steady_bind (steady_writeAll _) fun _ =>
      steady_setPane (flags.trans (congrArg some (inputFlags_putCharacter pane character).symm))

theorem steady_blank (about : call.window? = some window) :
    Steady native call (blank window) :=
  steady_pane_bind about fun _ flags =>
    steady_bind (steady_setRendition _) fun _ =>
      steady_bind (steady_writeAll _) fun _ => steady_setPane flags

/-! ## Reading

A new size of the screen is a new size of its first pane, which keeps its flags. -/

theorem steady_takeIn (about : call.window? = some window) (codes : List Code) :
    Steady native call (takeIn window codes) := by
  refine steady_get_bind fun screen => ?_
  have taken : Steady native call (modify fun screen : Screen =>
      { screen with queue := screen.queue.accept screen.cbreak codes }) :=
    steady_modify fun _ => rfl
  split
  · exact steady_bind (steady_forM (steady_putCell about) _) fun _ =>
      steady_bind steady_flush fun _ => taken
  · exact taken

theorem steady_codesOf (keypad : Bool) (event : Event) :
    Steady native call (codesOf keypad event) := by
  cases event with
  | key press released => exact steady_pure _
  | other => exact steady_pure _
  | resize size =>
      refine steady_bind (steady_modify fun screen => ?_) fun _ => steady_pure _
      cases found : screen.panes.get? 0 with
      | none => rfl
      | some full =>
          have flags : screen.native.flags 0 = some full.inputFlags := Panes.flags_of_get? found
          have kept : some full.inputFlags = some (Pane.inputFlags { full with size }) := rfl
          exact native_setPane (flags.trans kept)

theorem steady_awaitCode (about : call.window? = some window) (flags : Pane)
    (events : List Occurrence) : Steady native call (awaitCode window flags events) := by
  induction events with
  | nil => exact steady_device _
  | cons occurrence rest induction =>
      cases occurrence with
      | failure => exact steady_bind (steady_setEvents rest) fun _ => steady_device _
      | idle =>
          refine steady_bind (steady_setEvents rest) fun _ => ?_
          split
          · exact steady_pure _
          · exact induction
      | event event =>
          refine steady_bind (steady_setEvents rest) fun _ =>
            steady_bind (steady_codesOf flags.keypad event) fun codes =>
              steady_bind (steady_takeIn about codes) fun _ =>
                steady_bind steady_takeCode fun taken => ?_
          cases taken with
          | some code => exact steady_pure _
          | none => exact induction

theorem steady_readCode (about : call.window? = some window) :
    Steady native call (readCode window) := by
  refine steady_pane_bind about fun flags _ => steady_bind steady_takeCode fun taken => ?_
  cases taken with
  | some code => exact steady_pure _
  | none => exact steady_get_bind fun screen => steady_awaitCode about flags _

/-! ## Closing and drawing borders -/

theorem steady_closeSession : Steady native call closeSession := by
  refine steady_get_bind fun screen => ?_
  split
  · refine steady_bind (steady_modify fun _ => rfl) fun _ =>
      steady_bind (steady_writeAll _) fun _ => steady_get_bind fun screen => ?_
    split
    · exact steady_bind (steady_write _) fun _ => steady_bind steady_flush fun _ =>
        steady_bind steady_switchRawMode fun _ => steady_flush
    · exact steady_flush
  · exact steady_pure _

theorem steady_drawBorder (about : call.window? = some window) (border : ResolvedBorder) :
    Steady native call (do
      let pane ← pane window
      if 2 ≤ pane.size.rows && 2 ≤ pane.size.cols then
        setRendition { pair := border.pair.getD pane.rendition.pair }
        writeAll (borderRows pane border.glyphs)) := by
  refine steady_pane_bind about fun pane _ => ?_
  split
  · exact steady_bind (steady_setRendition _) fun _ => steady_writeAll _
  · exact steady_pure _

end

/-! ## Every call -/

def Faithful (screen : Screen) (call : Call) (work : Work call.Answer) : Prop :=
  Ends work screen (fun given stop => stop.native = screen.native.after call given)
    (fun fault stop => stop.native = screen.native ∧ screen.native.Explains call fault)

theorem faithful_of_steady {screen stop : Screen} {call : Call} {α : Type} {work : Work α}
    {next : α → Work call.Answer} (first : Steady screen.native call work)
    (same : stop.native = screen.native)
    (rest : ∀ value later, later.native = screen.native → Ends (next value) later
      (fun given last => last.native = screen.native.after call given)
      (fun fault last => last.native = screen.native ∧ screen.native.Explains call fault)) :
    Ends (work >>= next) stop
      (fun given last => last.native = screen.native.after call given)
      (fun fault last => last.native = screen.native ∧ screen.native.Explains call fault) := by
  rw [ends_bind]
  exact (first stop same).mono rest (fun _ _ => id)

/-- Only the last step of a start replaces the panes. -/
theorem faithful_openSession (screen : Screen) : Faithful screen .openSession openSession := by
  have opened : ∀ stop : Screen, stop.native = screen.native →
      Ends (do
        modify fun screen =>
          { screen with panes := .ofScreen screen.size, queue := {}, isOpen := true }
        return 0 : Work Handle) stop
        (fun given last => last.native = screen.native.after .openSession given)
        (fun fault last => last.native = screen.native ∧
          screen.native.Explains .openSession fault) := by
    intro stop same
    -- the panes are new, so of the old native state only the modes matter
    simp only [native, Native.mk.injEq] at same
    simp only [ends_bind, ends_modify, ends_pure, native, Native.after, Panes.flags_ofScreen, same]
  rw [Faithful, openSession, ends_bind, ends_get]
  split
  · refine faithful_of_steady steady_switchRawMode rfl fun _ _ same =>
      faithful_of_steady (steady_writeAll _) same fun _ _ same =>
        faithful_of_steady steady_flush same fun _ stop same => ?_
    rw [ends_bind, ends_get]
    cases stop.device.size with
    | none => exact ⟨same, by simp [Native.Explains]⟩
    | some size =>
        have kept : Steady screen.native .openSession (modify ({ · with size })) :=
          steady_modify fun _ => rfl
        exact faithful_of_steady kept same fun _ => opened
  · exact opened screen rfl

/-- A call about a window uses its pane, or reports that there is none. -/
theorem faithful_pane_bind {screen : Screen} {call : Call} {window : Handle}
    (about : call.window? = some window) {next : Pane → Work call.Answer}
    (rest : ∀ pane, screen.panes.get? window = some pane → Ends (next pane) screen
      (fun given stop => stop.native = screen.native.after call given)
      (fun fault stop => stop.native = screen.native ∧ screen.native.Explains call fault)) :
    Faithful screen call (pane window >>= next) := by
  simp only [Faithful, pane, bind_assoc, ends_bind, ends_get]
  cases found : screen.panes.get? window with
  | none =>
      exact ⟨rfl, fun _ => ⟨window, about, (Panes.flags_eq_none_iff _ _).mpr found⟩⟩
  | some pane => exact rest pane found

theorem faithful_answer (call : Call) (screen : Screen) :
    Faithful screen call (answer call) := by
  cases call with
  | openSession => exact faithful_openSession screen
  | setRawMode cbreak echo => exact rfl
  | createWindow size position =>
      exact congrArg (fun flags => (⟨flags, _, _⟩ : Native)) (Panes.flags_add _ _)
  | destroyWindow window =>
      refine faithful_pane_bind rfl fun pane flags => ?_
      simp only [ends_modify, native, Native.after, Native.setFlags, Panes.flags_remove]
  | setKeypad window keypad =>
      refine faithful_pane_bind rfl fun pane found => ?_
      simp only [setPane, ends_modify, native, Native.after, Native.setFlags,
        Panes.flags_set found, Panes.flags_of_get? found]
      rfl
  | setNoDelay window noDelay =>
      refine faithful_pane_bind rfl fun pane found => ?_
      simp only [setPane, ends_modify, native, Native.after, Native.setFlags,
        Panes.flags_set found, Panes.flags_of_get? found]
      rfl
  | closeSession => exact steady_closeSession screen rfl
  | setCursor visibility =>
      exact steady_bind (steady_writeAll _) (fun _ => steady_flush) screen rfl
  | drawBorder window border => exact steady_drawBorder rfl border screen rfl
  | putChar window character =>
      exact steady_pane_bind rfl (fun _ _ => steady_bind (steady_setRendition _) fun _ =>
        steady_putCell rfl character) screen rfl
  | putText window text =>
      exact steady_pane_bind rfl (fun _ _ => steady_bind (steady_setRendition _) fun _ =>
        steady_forM (steady_putCell rfl) _) screen rfl
  | horizontalLine window character length =>
      exact steady_pane_bind rfl (fun _ _ => steady_bind (steady_setRendition _) fun _ =>
        steady_writeAll _) screen rfl
  | verticalLine window character length =>
      exact steady_pane_bind rfl (fun _ _ => steady_bind (steady_setRendition _) fun _ =>
        steady_writeAll _) screen rfl
  | moveCursor window position =>
      have kept : ∀ pane : Pane,
          Pane.inputFlags { pane with cursor := pane.size.clamp position } = pane.inputFlags :=
        fun _ => rfl
      exact steady_modifyPane rfl kept screen rfl
  | clear window =>
      simp only [answer]
      split
      · exact steady_bind (steady_write _) (fun _ => steady_blank rfl) screen rfl
      · exact steady_blank rfl screen rfl
  | erase window => exact steady_blank rfl screen rfl
  | refresh window =>
      exact steady_pane_bind rfl (fun _ _ => steady_bind (steady_write _) fun _ => steady_flush)
        screen rfl
  | windowPosition window => exact steady_pane_bind rfl (fun _ _ => steady_pure _) screen rfl
  | windowSize window => exact steady_pane_bind rfl (fun _ _ => steady_pure _) screen rfl
  | resizeWindow window size =>
      have kept : ∀ pane : Pane,
          Pane.inputFlags { pane with size, cursor := size.clamp pane.cursor } = pane.inputFlags :=
        fun _ => rfl
      exact steady_modifyPane rfl kept screen rfl
  | readInput window => exact steady_readCode rfl screen rfl
  | startColor => exact rfl
  | allocatePair foreground background =>
      simp only [Faithful, answer, ends_bind, ends_get]
      split
      · exact rfl
      · exact ⟨rfl, by simp [Native.Explains]⟩
  | applyAttribute window look operation =>
      have kept : ∀ pane : Pane,
          Pane.inputFlags { pane with rendition := pane.rendition.apply look operation } =
            pane.inputFlags :=
        fun _ => rfl
      exact steady_modifyPane rfl kept screen rfl
  | specialKeys => exact rfl

theorem faithful_perform {call : Call} {given : Except Fault call.Answer} {before after : Screen}
    {notes : List Log.Entry} (reply : perform call before = ⟨given, after, notes⟩) :
    match given with
    | .ok given => after.native = before.native.after call given
    | .error fault => after.native = before.native ∧ before.native.Explains call fault := by
  have faithful := faithful_answer call before
  unfold Faithful Ends at faithful
  unfold perform at reply
  cases carried : answer call before with
  | ok value stop =>
      rw [carried] at reply faithful
      cases reply
      exact faithful
  | error fault stop =>
      rw [carried] at reply faithful
      cases reply
      exact faithful

theorem flags_created {size : Size} {position : Position} {window : Handle}
    {before after : Screen} {notes : List Log.Entry}
    (reply : perform (.createWindow size position) before = ⟨.ok window, after, notes⟩) :
    before.native.flags window = none := by
  cases reply
  exact Panes.flags_next before.panes

theorem destroyed {screen : Screen} {window : Handle}
    (there : screen.native.flags window ≠ none) :
    ∃ last notes, perform (.destroyWindow window) screen = ⟨.ok (), last, notes⟩ := by
  cases found : screen.panes.get? window with
  | none => exact absurd ((Panes.flags_eq_none_iff _ _).mpr found) there
  | some pane =>
      have carried : Ends (answer (.destroyWindow window)) screen (fun _ _ => True)
          (fun _ _ => False) := by
        simp only [answer, Screen.pane, bind_assoc, ends_bind, ends_get, found, ends_pure,
          ends_modify]
      unfold Ends at carried
      rw [perform]
      cases result : answer (.destroyWindow window) screen with
      | ok _ stop => exact ⟨_, _, rfl⟩
      | error fault stop =>
          rw [result] at carried
          exact carried.elim

instance : NativeTerminal Screen where
  native := native
  native_answered := faithful_perform
  native_denied reply := (faithful_perform reply).1
  explains reply := (faithful_perform reply).2
  flags_created := flags_created
  destroyed _ there reply := destroyed ((faithful_perform reply).1 ▸ there)

end Screen

end TerminalSession
