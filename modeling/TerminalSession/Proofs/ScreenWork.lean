import Mathlib.Order.Defs.Unbundled
import TerminalSession.Proofs.Ends
import TerminalSession.Screen

/-! # What work on a screen leaves alone

Most work on a screen writes and moves cursors. What it leaves alone is said by a relation between
the screen before and the screen after. If the relation holds of the single steps and can be
chained, it holds of all work that is put together from them, also of work that fails halfway. -/

namespace TerminalSession.Screen

/-- However the work ends, the screens before and after it are related. -/
def Leaves {α : Type} (relation : Screen → Screen → Prop) (work : Work α) : Prop :=
  ∀ start, Ends work start (fun _ stop => relation start stop) (fun _ stop => relation start stop)

/-! Relations that do not look at the output, or at the panes, or at one window are kept by work
that changes nothing else. -/

def IgnoresOutput (relation : Screen → Screen → Prop) : Prop :=
  ∀ screen output, relation screen { screen with device.output := output }

structure IgnoresDrawing (relation : Screen → Screen → Prop) : Prop where
  output : IgnoresOutput relation
  panes : ∀ screen panes, relation screen { screen with panes }

structure IgnoresWindow (relation : Screen → Screen → Prop) (window : Handle) : Prop where
  output : IgnoresOutput relation
  panes : ∀ screen panes, (∀ other ≠ window, panes.get? other = screen.panes.get? other) →
    relation screen { screen with panes }

variable {relation : Screen → Screen → Prop} {window : Handle} {α β : Type}

theorem IgnoresDrawing.ofWindow (ignores : IgnoresDrawing relation) (window : Handle) :
    IgnoresWindow relation window where
  output := ignores.output
  panes := fun screen panes _ => ignores.panes screen panes

theorem ends_write {start : Screen} {instruction : Instruction} {returned : Unit → Screen → Prop}
    {failed : Fault → Screen → Prop}
    (whole : ∀ room, returned () { start with
      device.output := { start.device.output with
        written := .whole instruction :: start.device.output.written, room } })
    (cut : ∀ bytes, failed (.device .outputFull) { start with
      device.output := { start.device.output with
        written := .cut instruction bytes :: start.device.output.written, room := some 0 } }) :
    Ends (write instruction) start returned failed := by
  unfold Ends write Output.write
  cases start.device.output.room with
  | none => exact whole none
  | some room =>
      by_cases fits : instruction.text.utf8ByteSize ≤ room
      · simp only [fits, if_true]
        exact whole _
      · simp only [fits, if_false]
        exact cut room

theorem ends_flush {start : Screen} {returned : Unit → Screen → Prop}
    {failed : Fault → Screen → Prop}
    (flushed : ∀ flushesLeft, returned () { start with
      device.output := { start.device.output with
        flushes := start.device.output.flushes + 1, flushesLeft } })
    (refused : failed (.device .flushFailed) start) :
    Ends flush start returned failed := by
  unfold Ends flush Output.flush
  cases start.device.output.flushesLeft with
  | none => exact flushed none
  | some left =>
      cases left with
      | zero => exact refused
      | succ left => exact flushed (some left)

/-! ## How work is put together

Taking codes in shows them in the window and queues them, and an event that is heard may change the
size of the screen and of its window. -/

namespace Leaves

theorem mono {weaker : Screen → Screen → Prop} {work : Work α} (leaves : Leaves relation work)
    (implies : ∀ before after, relation before after → weaker before after) :
    Leaves weaker work := fun start => (leaves start).imp (implies start)

theorem modify {change : Screen → Screen} (changed : ∀ screen, relation screen (change screen)) :
    Leaves relation (modify change) := changed

theorem get_bind {next : Screen → Work α} (rest : ∀ screen, Leaves relation (next screen)) :
    Leaves relation (get >>= next) := by
  intro start
  rw [ends_bind, ends_get]
  exact rest start start

theorem write (ignores : IgnoresOutput relation) (instruction : Instruction) :
    Leaves relation (write instruction) := by
  intro start
  apply ends_write
  · intro _
    exact ignores start _
  · intro _
    exact ignores start _

theorem flush (ignores : IgnoresOutput relation) : Leaves relation flush := by
  intro start
  apply ends_flush
  · intro _
    exact ignores start _
  · exact ignores start start.device.output

theorem switchRawMode (switched : ∀ (screen : Screen) (device : Device),
      relation screen { screen with device }) : Leaves relation switchRawMode := by
  intro start
  unfold Ends Screen.switchRawMode
  rcases start.device.switchRawMode with ⟨result, device⟩
  cases result with
  | ok _ => exact switched start device
  | error _ => exact switched start device

theorem setPane (ignores : IgnoresWindow relation window) (pane : Pane) :
    Leaves relation (setPane window pane) :=
  modify fun screen => ignores.panes screen _ fun _ different =>
    screen.panes.get?_set_of_ne different pane

theorem pure [Std.Refl relation] (value : α) : Leaves relation (Pure.pure value) := by
  intro start
  exact Std.Refl.refl start

theorem throw [Std.Refl relation] (fault : Fault) :
    Leaves relation (MonadExcept.throw fault : Work α) := by
  intro start
  exact Std.Refl.refl start

theorem bind [IsTrans Screen relation] {work : Work α} {next : α → Work β}
    (first : Leaves relation work) (second : ∀ value, Leaves relation (next value)) :
    Leaves relation (work >>= next) := by
  intro start
  rw [ends_bind]
  apply (first start).mono
  · intro value middle before
    apply (second value middle).mono
    · intro _ stop after
      exact IsTrans.trans _ _ _ before after
    · intro _ stop after
      exact IsTrans.trans _ _ _ before after
  · intro _ stop before
    exact before

theorem ends_before [IsTrans Screen relation] {work : Work α} {next : α → Work β}
    {start middle : Screen} {returned : β → Screen → Prop} (first : Leaves relation work)
    (same : relation start middle)
    (rest : ∀ value later, relation start later →
      Ends (next value) later returned (fun _ last => relation start last)) :
    Ends (work >>= next) middle returned (fun _ last => relation start last) := by
  rw [ends_bind]
  apply (first middle).mono
  · intro value later left
    exact rest value later (IsTrans.trans _ _ _ same left)
  · intro _ last left
    exact IsTrans.trans _ _ _ same left

variable [Std.Refl relation] [IsTrans Screen relation]

theorem forM {step : α → Work PUnit} (body : ∀ member, Leaves relation (step member))
    (members : List α) : Leaves relation (members.forM step) := by
  induction members with
  | nil => exact pure _
  | cons member rest induction => exact (body member).bind fun _ => induction

theorem writeAll (ignores : IgnoresOutput relation) (instructions : List Instruction) :
    Leaves relation (writeAll instructions) := forM (write ignores) instructions

theorem setRendition (ignores : IgnoresOutput relation) (rendition : Rendition) :
    Leaves relation (setRendition rendition) := get_bind fun _ => writeAll ignores _

theorem pane_bind (window : Handle) {next : Pane → Work α}
    (rest : ∀ pane, Leaves relation (next pane)) : Leaves relation (pane window >>= next) := by
  refine bind (get_bind fun screen => ?_) rest
  cases screen.panes.get? window with
  | none => exact throw _
  | some pane => exact pure pane

theorem putCell (ignores : IgnoresWindow relation window) (character : Char) :
    Leaves relation (putCell window character) := by
  apply pane_bind window
  intro pane
  apply (writeAll ignores.output _).bind
  intro _
  exact setPane ignores _

theorem blank (ignores : IgnoresWindow relation window) : Leaves relation (blank window) := by
  apply pane_bind window
  intro pane
  apply (setRendition ignores.output _).bind
  intro _
  apply (writeAll ignores.output _).bind
  intro _
  exact setPane ignores _

theorem modifyPane (ignores : IgnoresWindow relation window) (change : Pane → Pane) :
    Leaves relation (do Screen.setPane window (change (← pane window))) :=
  pane_bind window fun _ => setPane ignores _

theorem takeIn (ignores : IgnoresWindow relation window)
    (queued : ∀ screen queue, relation screen { screen with queue }) (codes : List Code) :
    Leaves relation (takeIn window codes) := by
  apply get_bind
  intro screen
  cases screen.echo with
  | false => exact modify fun screen => queued screen _
  | true =>
      apply (forM (putCell ignores) _).bind
      intro _
      apply (flush ignores.output).bind
      intro _
      exact modify fun screen => queued screen _

theorem codesOf (resized : ∀ (screen : Screen) (size : Size) (panes : Panes),
      relation screen { screen with size, panes }) (keypad : Bool) (heard : Event) :
    Leaves relation (codesOf keypad heard) := by
  cases heard with
  | key press released => exact pure _
  | other => exact pure _
  | resize size =>
      refine (modify ?_).bind fun _ => pure _
      intro screen
      cases screen.panes.get? 0 with
      | none => exact resized screen size screen.panes
      | some full => exact resized screen size _

section

variable (queued : ∀ screen queue, relation screen { screen with queue })
  (happened : ∀ screen events, relation screen { screen with device.events := events })
  (told : ∀ keypad heard, Leaves relation (Screen.codesOf keypad heard))
  (taken : ∀ codes, Leaves relation (Screen.takeIn window codes))
include queued happened told taken

theorem awaitCode (flags : Pane) (events : List Occurrence) :
    Leaves relation (awaitCode window flags events) := by
  have passed : ∀ rest, Leaves relation (setEvents rest) := fun rest =>
    modify fun screen => happened screen rest
  have next : Leaves relation takeCode := fun start => queued start _
  induction events with
  | nil => exact throw _
  | cons occurrence rest induction =>
      cases occurrence with
      | failure => exact (passed rest).bind fun _ => throw _
      | idle =>
          apply (passed rest).bind
          intro _
          split
          · exact pure _
          · exact induction
      | event heard =>
          apply (passed rest).bind
          intro _
          apply (told flags.keypad heard).bind
          intro codes
          apply (taken codes).bind
          intro _
          apply next.bind
          intro code
          cases code with
          | some code => exact pure _
          | none => exact induction

theorem readCode : Leaves relation (readCode window) := by
  have next : Leaves relation takeCode := fun start => queued start _
  apply pane_bind
  intro flags
  apply next.bind
  intro code
  cases code with
  | some code => exact pure _
  | none => exact get_bind fun _ => awaitCode queued happened told taken flags _

end

theorem sendAll (writing : ∀ instruction, (∀ text, instruction ≠ .print text) →
      Leaves relation (Screen.write instruction))
    {instructions : List Instruction} (wordless : ∀ text, .print text ∉ instructions) :
    Leaves relation (Screen.writeAll instructions) := by
  induction instructions with
  | nil => exact pure _
  | cons instruction rest induction =>
      have first := writing instruction fun text same =>
        wordless text (same ▸ List.mem_cons_self)
      have others := induction fun text later => wordless text (List.mem_cons_of_mem _ later)
      exact first.bind fun _ => others

theorem restoring (writing : ∀ instruction, (∀ text, instruction ≠ .print text) →
      Leaves relation (Screen.write instruction))
    (flushing : Leaves relation Screen.flush) (switching : Leaves relation Screen.switchRawMode) :
    Leaves relation (do
      Screen.writeAll [.resetAttributes, .resetColors, .showCursor]
      if (← get).ownsDevice then
        Screen.write .leaveAlternateScreen
        Screen.flush
        Screen.switchRawMode
      Screen.flush) := by
  apply (sendAll writing (by simp)).bind
  intro _
  apply get_bind
  intro screen
  cases screen.ownsDevice with
  | false => exact flushing
  | true =>
      apply (writing .leaveAlternateScreen (by simp)).bind
      intro _
      apply flushing.bind
      intro _
      apply switching.bind
      intro _
      exact flushing

theorem closeSession (writing : ∀ instruction, (∀ text, instruction ≠ .print text) →
      Leaves relation (Screen.write instruction))
    (flushing : Leaves relation Screen.flush) (switching : Leaves relation Screen.switchRawMode)
    (ended : ∀ screen, relation screen { screen with isOpen := false }) :
    Leaves relation closeSession := by
  apply get_bind
  intro screen
  cases screen.isOpen with
  | false => exact pure _
  | true => exact (modify ended).bind fun _ => restoring writing flushing switching

theorem openSession (writing : ∀ instruction, (∀ text, instruction ≠ .print text) →
      Leaves relation (Screen.write instruction))
    (flushing : Leaves relation Screen.flush) (switching : Leaves relation Screen.switchRawMode)
    (sized : ∀ (screen : Screen) (size : Size), relation screen { screen with size })
    (opened : ∀ screen : Screen, relation screen
      { screen with panes := .ofScreen screen.size, queue := {}, isOpen := true }) :
    Leaves relation openSession := by
  have begun := (modify opened).bind fun _ => pure (0 : Handle)
  apply get_bind
  intro screen
  cases screen.ownsDevice with
  | false => exact begun
  | true =>
      apply switching.bind
      intro _
      apply (sendAll writing (by simp)).bind
      intro _
      apply flushing.bind
      intro _
      apply get_bind
      intro screen
      cases screen.device.size with
      | none => exact throw _
      | some size => exact (modify fun screen => sized screen size).bind fun _ => begun

theorem allocatePair (paired : ∀ screen pairs, relation screen { screen with pairs })
    (foreground background : Color) :
    Leaves relation (Screen.answer (.allocatePair foreground background)) := by
  apply get_bind
  intro screen
  dsimp only
  split
  · exact (modify fun screen => paired screen _).bind fun _ => pure _
  · exact throw _

end Leaves

/-! ## Calls -/

def Writes : Call → Bool
  | .setCursor _ | .drawBorder .. | .horizontalLine .. | .verticalLine .. | .refresh _ => true
  | .windowPosition _ | .windowSize _ | .startColor | .specialKeys => true
  | _ => false

def Draws : Call → Bool
  | .openSession | .closeSession | .setRawMode .. | .readInput _ | .allocatePair .. => false
  | _ => true

variable [Std.Refl relation] [IsTrans Screen relation]

theorem Leaves.answer_writing (ignores : IgnoresOutput relation) {call : Call}
    (writes : Writes call = true) : Leaves relation (answer call) := by
  cases call with
  | setCursor visibility => exact (writeAll ignores _).bind fun _ => flush ignores
  | drawBorder window border =>
      apply pane_bind window
      intro pane
      split
      · exact (setRendition ignores _).bind fun _ => writeAll ignores _
      · exact pure _
  | horizontalLine window character length =>
      exact pane_bind window fun _ => (setRendition ignores _).bind fun _ => writeAll ignores _
  | verticalLine window character length =>
      exact pane_bind window fun _ => (setRendition ignores _).bind fun _ => writeAll ignores _
  | refresh window =>
      exact pane_bind window fun _ => (write ignores _).bind fun _ => flush ignores
  | windowPosition window => exact pane_bind window fun _ => pure _
  | windowSize window => exact pane_bind window fun _ => pure _
  | startColor => exact pure _
  | specialKeys => exact pure _
  | _ => cases writes

/-- What a call is about is the only window it draws in or changes. -/
theorem Leaves.answer_about (ignores : IgnoresWindow relation window) {call : Call}
    (about : call.window? = some window) (draws : Draws call = true) :
    Leaves relation (answer call) := by
  cases call with
  | readInput window => cases draws
  | destroyWindow window =>
      cases about
      apply pane_bind window
      intro _
      apply modify
      intro screen
      apply ignores.panes
      intro other different
      rw [Panes.get?_remove, if_neg different]
  | putChar window character =>
      cases about
      exact pane_bind window fun _ =>
        (setRendition ignores.output _).bind fun _ => putCell ignores character
  | putText window text =>
      cases about
      exact pane_bind window fun _ =>
        (setRendition ignores.output _).bind fun _ => forM (putCell ignores) _
  | clear window =>
      cases about
      simp only [Screen.answer]
      split
      · exact (write ignores.output _).bind fun _ => blank ignores
      · exact blank ignores
  | erase window =>
      cases about
      exact blank ignores
  | moveCursor window position =>
      cases about
      exact modifyPane ignores _
  | resizeWindow window size =>
      cases about
      exact modifyPane ignores _
  | setKeypad window keypad =>
      cases about
      exact modifyPane ignores _
  | setNoDelay window noDelay =>
      cases about
      exact modifyPane ignores _
  | applyAttribute window look operation =>
      cases about
      exact modifyPane ignores _
  | drawBorder | horizontalLine | verticalLine | refresh | windowPosition | windowSize =>
      exact answer_writing ignores.output rfl
  | _ => cases about

theorem Leaves.answer (ignores : IgnoresDrawing relation) {call : Call}
    (draws : Draws call = true) : Leaves relation (answer call) := by
  cases about : call.window? with
  | some window => exact answer_about (ignores.ofWindow window) about draws
  | none =>
      cases call with
      | createWindow size origin =>
          intro start
          exact ignores.panes start _
      | setCursor | startColor | specialKeys => exact answer_writing ignores.output rfl
      | openSession | closeSession | setRawMode | allocatePair => cases draws
      | _ => cases about

/-- What work ends in, a call on the screen replies. -/
theorem perform_rule {call : Call} {screen : Screen} {motive : Reply Screen call.Answer → Prop}
    (ends : Ends (answer call) screen
      (fun given stop => motive ⟨.ok given, stop, notes call screen stop⟩)
      (fun fault stop => motive ⟨.error fault, stop, []⟩)) :
    motive (perform call screen) := by
  unfold Ends at ends
  unfold perform
  cases result : answer call screen with
  | ok given stop =>
      rw [result] at ends
      exact ends
  | error fault stop =>
      rw [result] at ends
      exact ends

end TerminalSession.Screen
