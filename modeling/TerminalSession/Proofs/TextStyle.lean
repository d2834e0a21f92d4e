import TerminalSession.Proofs.CursorsInside
import TerminalSession.Proofs.PrintedMarks

/-! # In which style text appears

The pen of a device is shared by all windows, so everything that draws has to choose it anew. It
does, whatever was drawn before, except for the characters that are shown as they are typed: those
appear with the pen that was left behind. -/

namespace TerminalSession

namespace Call

def rendition? (pane : Pane) : Call → Option Rendition
  | putChar .. | putText .. | horizontalLine .. | verticalLine .. => some pane.rendition
  | clear _ | erase _ => some { pane.rendition with style := .plain }
  | drawBorder _ border => some { pair := border.pair.getD pane.rendition.pair }
  | _ => none

def text? (pane : Pane) : Call → Option (List Char)
  | putChar _ character => some ([character].filter (· ≠ '\n'))
  | putText _ text => some (text.toList.filter (· ≠ '\n'))
  | horizontalLine _ character length =>
      some (List.replicate (length.least (pane.size.cols.rest pane.cursor.col)).toNat character)
  | verticalLine _ character length =>
      some (List.replicate (length.least (pane.size.rows.rest pane.cursor.row)).toNat character)
  | _ => none

end Call

namespace Screen

variable {start middle stop : Screen} {window : Handle} {characters : List Char} {α : Type}

/-! ## What calls print

Borders and blanks are plain, in the colors of the window or of the border. -/

/-- The pen that a call prints with, if it prints. Typed characters are shown with the pen that was
left behind. -/
def pen? (screen : Screen) : Call → Option Pen
  | .readInput _ => some screen.pen
  | call => do
      let pane ← screen.panes.get? (← call.window?)
      return .showing screen.pairs (← call.rendition? pane)

/-- What a call printed, and with which pen. -/
structure Shown (call : Call) (answered : Bool) (fresh : List Mark) (before after : Screen) : Prop
    where
  marks : after.marks = before.marks ++ fresh
  styled : ∀ mark ∈ fresh, before.pen? call = some mark.pen
  complete : answered = true → ∀ window pane text, call.window? = some window →
    before.panes.get? window = some pane → call.text? pane = some text →
      fresh.map (·.character) = text

def Styles (call : Call) (work : Work α) (start : Screen) : Prop :=
  Ends work start (fun _ stop => ∃ fresh, Shown call true fresh start stop)
    (fun _ stop => ∃ fresh, Shown call false fresh start stop)

variable {call : Call} {answered : Bool}

theorem Shows.shown {pen : Pen} (shows : Shows pen characters start stop)
    (chosen : start.pen? call = some pen)
    (complete : answered = true → ∀ window pane text, call.window? = some window →
      start.panes.get? window = some pane → call.text? pane = some text → characters = text) :
    ∃ fresh, Shown call answered fresh start stop := by
  refine ⟨characters.map (Mark.mk · pen), shows, ?_, ?_⟩
  · intro mark member
    rcases List.mem_map.mp member with ⟨character, _, rfl⟩
    exact chosen
  · intro done window pane text about found printed
    rw [List.map_map, ← complete done window pane text about found printed]
    exact List.map_id _

theorem Shows.shown_failed {pen : Pen} (shows : Shows pen characters start stop)
    (chosen : start.pen? call = some pen) : ∃ fresh, Shown call false fresh start stop := by
  apply shows.shown chosen
  intro done
  cases done

theorem Shows.shown_wordless {pen : Pen} (shows : Shows pen characters start stop)
    (chosen : start.pen? call = some pen) (wordless : ∀ pane, call.text? pane = none) :
    ∃ fresh, Shown call answered fresh start stop := by
  apply shows.shown chosen
  intro _ _ pane _ _ _ printed
  cases (wordless pane).symm.trans printed

theorem Silent.shown (silent : Silent start stop)
    (wordless : answered = true → ∀ pane, call.text? pane = none) :
    ∃ fresh, Shown call answered fresh start stop := by
  refine ⟨[], silent.trans (List.append_nil _).symm, ?_, ?_⟩
  · intro mark member
    cases member
  · intro done _ pane _ _ _ printed
    cases (wordless done pane).symm.trans printed

theorem Silent.shown_failed (silent : Silent start stop) :
    ∃ fresh, Shown call false fresh start stop := by
  apply silent.shown
  intro done
  cases done

theorem Shown.after_quiet {fresh : List Mark} (shown : Shown call answered fresh middle stop)
    (quiet : Silent start middle) (pens : middle.pen? call = start.pen? call)
    (panes : middle.panes = start.panes) : Shown call answered fresh start stop where
  marks := shown.marks.trans (congrArg (· ++ fresh) quiet)
  styled := pens ▸ shown.styled
  complete := panes ▸ shown.complete

theorem pen?_of_rendition? {pane : Pane} {rendition : Rendition}
    (about : call.window? = some window) (found : start.panes.get? window = some pane)
    (renders : call.rendition? pane = some rendition) :
    start.pen? call = some (.showing start.pairs rendition) := by
  unfold pen?
  split
  · cases renders
  · simp [about, found, renders]

/-- Drawing in a window chooses the rendition first. -/
theorem drawing_styles {rendition : Pane → Rendition} {drawing : Pane → Work α}
    {text : Pane → List Char} (about : call.window? = some window)
    (renders : ∀ pane, call.rendition? pane = some (rendition pane))
    (letters : ∀ pane, Letters (text pane) (drawing pane))
    (complete : ∀ pane written, call.text? pane = some written → text pane = written) :
    Styles call (do
      let pane ← pane window
      setRendition (rendition pane)
      drawing pane) start := by
  apply ends_pane_bind
  · exact Silent.shown_failed rfl
  · intro pane found
    have chosen := pen?_of_rendition? about found (renders pane)
    apply (shows_of_letters (letters pane) (rendition pane)).mono
    · intro _ stop shows
      apply shows.shown chosen
      intro _ other there written same present printed
      cases about.symm.trans same
      cases found.symm.trans present
      exact complete pane written printed
    · intro _ stop shows
      rcases shows with ⟨some, shows⟩
      exact shows.shown_failed chosen

theorem styles_of_silent {work : Work α} (silent : Leaves Silent work)
    (wordless : ∀ pane, call.text? pane = none) : Styles call work start := by
  apply (silent start).mono
  · intro _ stop quiet
    exact quiet.shown fun _ => wordless
  · intro _ stop quiet
    exact quiet.shown fun _ => wordless

theorem putChar_styles (character : Char) :
    Styles (.putChar window character) (answer (.putChar window character)) start :=
  drawing_styles rfl (fun _ => rfl) (fun _ => Letters.putCell character)
    (fun _ _ printed => Option.some.inj printed)

theorem putText_styles (text : String) :
    Styles (.putText window text) (answer (.putText window text)) start := by
  have printed : (text.toList.flatMap fun character => [character].filter (· ≠ '\n')) =
      text.toList.filter (· ≠ '\n') := by
    rw [← List.filter_flatMap, List.flatMap_singleton']
  have letters : Letters (text.toList.filter (· ≠ '\n')) (text.toList.forM (putCell window)) :=
    printed ▸ Letters.forM fun character _ => Letters.putCell character
  exact drawing_styles rfl (fun _ => rfl) (fun _ => letters)
    (fun _ _ written => Option.some.inj written)

theorem horizontalLine_styles (character : Char) (length : Coordinate) :
    Styles (.horizontalLine window character length)
      (answer (.horizontalLine window character length)) start := by
  apply drawing_styles rfl (fun _ => rfl)
    (fun pane => Letters.writeAll (keeps_horizontalRun pane character length))
  intro pane written printed
  rw [characters_horizontalRun]
  exact Option.some.inj printed

theorem verticalLine_styles (character : Char) (length : Coordinate) :
    Styles (.verticalLine window character length)
      (answer (.verticalLine window character length)) start := by
  apply drawing_styles rfl (fun _ => rfl)
    (fun pane => Letters.writeAll (keeps_verticalRun pane character length))
  intro pane written printed
  rw [characters_verticalRun]
  exact Option.some.inj printed

theorem blank_styles (about : call.window? = some window)
    (renders : ∀ pane, call.rendition? pane = some { pane.rendition with style := .plain })
    (wordless : ∀ pane, call.text? pane = none) : Styles call (blank window) start := by
  have letters : ∀ pane : Pane, Letters _ (do
      writeAll (blankRows pane)
      setPane window { pane with cursor := .origin }) := fun pane =>
    (Letters.writeAll (keeps_blankRows pane)).bind fun _ => Letters.modify fun _ => rfl
  apply drawing_styles about renders letters
  intro pane written printed
  cases (wordless pane).symm.trans printed

theorem drawBorder_styles (border : ResolvedBorder) :
    Styles (.drawBorder window border) (answer (.drawBorder window border)) start := by
  have silent : ∀ {stop : Screen} {answered : Bool}, Silent start stop →
      ∃ fresh, Shown (.drawBorder window border) answered fresh start stop :=
    fun quiet => quiet.shown fun _ _ => rfl
  apply ends_pane_bind (silent rfl)
  intro pane found
  have chosen : start.pen? (.drawBorder window border) =
      some (.showing start.pairs { pair := border.pair.getD pane.rendition.pair }) :=
    pen?_of_rendition? rfl found rfl
  split
  · apply (shows_of_letters (Letters.writeAll (keeps_borderRows pane border.glyphs)) _).mono
    · intro _ stop shows
      exact shows.shown_wordless chosen fun _ => rfl
    · intro _ stop shows
      rcases shows with ⟨some, shows⟩
      exact shows.shown_failed chosen
  · exact silent rfl

theorem clear_styles : Styles (.clear window) (answer (.clear window)) start := by
  have blanked : ∀ middle, Styles (.clear window) (blank window) middle := fun _ =>
    blank_styles rfl (fun _ => rfl) (fun _ => rfl)
  simp only [answer]
  split
  · unfold Styles
    rw [ends_bind]
    apply ends_write
    · intro room
      have quiet : Silent start { start with
          device.output := { start.device.output with
            written := .whole .clearAll :: start.device.output.written, room } } :=
        silent_of_part rfl rfl
      apply (blanked _).mono
      · intro _ stop shown
        rcases shown with ⟨fresh, shown⟩
        exact ⟨fresh, shown.after_quiet quiet rfl rfl⟩
      · intro _ stop shown
        rcases shown with ⟨fresh, shown⟩
        exact ⟨fresh, shown.after_quiet quiet rfl rfl⟩
    · intro bytes
      have quiet : Silent start { start with
          device.output := { start.device.output with
            written := .cut .clearAll bytes :: start.device.output.written, room := some 0 } } :=
        silent_of_part rfl rfl
      exact quiet.shown_failed
  · exact blanked start

/-! ## What is shown as it is typed -/

theorem flush_inked : Leaves Inked flush := Letters.flush.leaves

theorem modify_inked {change : Screen → Screen}
    (same : ∀ screen, (change screen).device.output = screen.device.output) :
    Leaves Inked (modify change) := (Letters.modify same).leaves

theorem takeIn_inked (codes : List Code) : Leaves Inked (takeIn window codes) := by
  have queued : Leaves Inked (modify fun screen : Screen =>
      { screen with queue := screen.queue.accept screen.cbreak codes }) :=
    modify_inked fun _ => rfl
  apply Leaves.get_bind
  intro screen
  cases screen.echo with
  | false => exact queued
  | true =>
      apply (Leaves.forM (fun character => (Letters.putCell character).leaves) _).bind
      intro _
      exact flush_inked.bind fun _ => queued

theorem readCode_inked : Leaves Inked (readCode window) :=
  Leaves.readCode (fun _ _ => Inked.of_written rfl) (fun _ _ => Inked.of_written rfl)
    (Leaves.codesOf fun _ _ _ => Inked.of_written rfl) takeIn_inked

theorem readInput_styles : Styles (.readInput window) (answer (.readInput window)) start := by
  apply (readCode_inked start).mono
  · intro _ stop inked
    rcases inked with ⟨characters, inks⟩
    exact Shows.shown_wordless inks.marks rfl fun _ => rfl
  · intro _ stop inked
    rcases inked with ⟨characters, inks⟩
    exact Shows.shown_failed inks.marks rfl

/-! ## Calls that print nothing -/

theorem write_quiet (instruction : Instruction)
    (wordless : ∀ text, instruction ≠ .print text) : Leaves Silent (write instruction) := by
  have silent : instruction.characters = [] := by
    cases instruction with
    | print text => exact absurd rfl (wordless text)
    | _ => rfl
  intro start
  apply (write_silent silent).mono
  · intro _ _ wrote
    exact wrote.2
  · intro _ _ quiet
    exact quiet

theorem flush_quiet : Leaves Silent flush := by
  intro start
  apply ends_flush
  · intro _
    exact rfl
  · exact rfl

theorem modify_quiet {change : Screen → Screen}
    (same : ∀ screen, (change screen).device.output = screen.device.output) :
    Leaves Silent (modify change) := by
  intro start
  exact congrArg (fun output => marksOf output.written) (same start)

theorem output_switchRawMode (device : Device) :
    device.switchRawMode.2.output = device.output := by
  unfold Device.switchRawMode
  split
  · rfl
  · rfl
  · rfl

theorem switchRawMode_quiet : Leaves Silent switchRawMode := by
  intro start
  have kept := output_switchRawMode start.device
  unfold Ends switchRawMode
  rcases switched : start.device.switchRawMode with ⟨result, device⟩
  rw [switched] at kept
  have quiet : Silent start { start with device } :=
    congrArg (fun output : Output => marksOf output.written) kept
  cases result with
  | ok _ => exact quiet
  | error _ => exact quiet

theorem openSession_quiet : Leaves Silent openSession :=
  Leaves.openSession write_quiet flush_quiet switchRawMode_quiet (fun _ _ => rfl) fun _ => rfl

theorem modifyPane_quiet (change : Pane → Pane) :
    Leaves Silent (do setPane window (change (← pane window))) :=
  Leaves.pane_bind window fun _ => modify_quiet fun _ => rfl

/-! ## Every call -/

theorem answer_styles (call : Call) (start : Screen) : Styles call (answer call) start := by
  have quiet : Leaves Silent (answer call) → (∀ pane, call.text? pane = none) →
      Styles call (answer call) start := styles_of_silent
  cases call with
  | putChar window character => exact putChar_styles character
  | putText window text => exact putText_styles text
  | horizontalLine window character length => exact horizontalLine_styles character length
  | verticalLine window character length => exact verticalLine_styles character length
  | drawBorder window border => exact drawBorder_styles border
  | clear window => exact clear_styles
  | erase window => exact blank_styles rfl (fun _ => rfl) (fun _ => rfl)
  | readInput window => exact readInput_styles
  | openSession => exact quiet openSession_quiet fun _ => rfl
  | closeSession =>
      exact quiet (Leaves.closeSession write_quiet flush_quiet switchRawMode_quiet fun _ => rfl)
        fun _ => rfl
  | setRawMode cbreak echo => exact quiet (modify_quiet fun _ => rfl) fun _ => rfl
  | setCursor visibility =>
      have shaped : ∀ text, .print text ∉ cursorInstructions visibility := by
        cases visibility <;> simp [cursorInstructions]
      exact quiet ((Leaves.sendAll write_quiet shaped).bind fun _ => flush_quiet) fun _ => rfl
  | createWindow size position => exact quiet (fun _ => rfl) fun _ => rfl
  | destroyWindow window =>
      exact quiet (Leaves.pane_bind window fun _ => modify_quiet fun _ => rfl) fun _ => rfl
  | moveCursor window position => exact quiet (modifyPane_quiet _) fun _ => rfl
  | refresh window =>
      have moved : ∀ position, Leaves Silent (write (.moveTo position)) :=
        fun position => write_quiet _ (by simp)
      exact quiet (Leaves.pane_bind window fun _ => (moved _).bind fun _ => flush_quiet)
        fun _ => rfl
  | windowPosition window =>
      exact quiet (Leaves.pane_bind window fun _ => Leaves.pure _) fun _ => rfl
  | windowSize window => exact quiet (Leaves.pane_bind window fun _ => Leaves.pure _) fun _ => rfl
  | resizeWindow window size => exact quiet (modifyPane_quiet _) fun _ => rfl
  | setKeypad window keypad => exact quiet (modifyPane_quiet _) fun _ => rfl
  | setNoDelay window noDelay => exact quiet (modifyPane_quiet _) fun _ => rfl
  | startColor => exact quiet (Leaves.pure _) fun _ => rfl
  | allocatePair foreground background =>
      exact quiet (Leaves.allocatePair (fun _ _ => rfl) foreground background) fun _ => rfl
  | applyAttribute window look operation => exact quiet (modifyPane_quiet _) fun _ => rfl
  | specialKeys => exact quiet (Leaves.pure _) fun _ => rfl

theorem perform_shown (call : Call) (screen : Screen) :
    ∃ fresh, Shown call (perform call screen).answer.isOk fresh screen
      (perform call screen).terminal := by
  apply perform_rule (motive := fun reply =>
    ∃ fresh, Shown call reply.answer.isOk fresh screen reply.terminal)
  exact answer_styles call screen

/-! ## Every sequence of calls

What was printed stays printed, whether the calls after it succeed or not. -/

def afterCalls (screen : Screen) (calls : List Call) : Screen :=
  calls.foldl (fun screen call => (perform call screen).terminal) screen

theorem marks_afterCalls (screen : Screen) (calls : List Call) :
    ∃ later, (screen.afterCalls calls).marks = screen.marks ++ later := by
  induction calls generalizing screen with
  | nil => exact ⟨[], (List.append_nil _).symm⟩
  | cons call rest induction =>
      rcases perform_shown call screen with ⟨fresh, shown⟩
      rcases induction (perform call screen).terminal with ⟨later, printed⟩
      refine ⟨fresh ++ later, ?_⟩
      rw [← List.append_assoc, ← shown.marks]
      exact printed

theorem rendition?_of_text? {pane : Pane} {text : List Char}
    (printed : call.text? pane = some text) : call.rendition? pane = some pane.rendition := by
  cases call with
  | putChar | putText | horizontalLine | verticalLine => rfl
  | _ => cases printed

/-- In every sequence of calls, the text of a window is printed with the pen that its style and its
colors ask for at that moment, whatever was drawn before for other windows; and that pen is what is
chosen by what is sent for them, whatever pen there was. Everything else that is printed has its own
pen too, except for characters that are shown as they are typed. -/
theorem text_in_style_of_window (start : Screen) (front back : List Call) (call : Call) :
    let before := start.afterCalls front
    let reply := perform call before
    ∃ fresh later,
      reply.terminal.marks = before.marks ++ fresh ∧
      (start.afterCalls (front ++ call :: back)).marks = before.marks ++ fresh ++ later ∧
      (∀ mark ∈ fresh, before.pen? call = some mark.pen) ∧
      ∀ window pane text, call.window? = some window → before.panes.get? window = some pane →
        call.text? pane = some text →
        (∀ mark ∈ fresh, mark.pen = .showing before.pairs pane.rendition) ∧
        (∀ pen, (renditionInstructions before.pairs pane.rendition).foldl Pen.after pen =
          .showing before.pairs pane.rendition) ∧
        (reply.answer.isOk = true → fresh.map (·.character) = text) := by
  intro before reply
  rcases perform_shown call before with ⟨fresh, shown⟩
  rcases marks_afterCalls reply.terminal back with ⟨later, printed⟩
  refine ⟨fresh, later, shown.marks, ?_, shown.styled, ?_⟩
  · rw [← shown.marks, afterCalls, List.foldl_append]
    exact printed
  · intro window pane text about found worded
    have chosen := pen?_of_rendition? about found (rendition?_of_text? worded)
    refine ⟨?_, ?_, ?_⟩
    · intro mark member
      exact Option.some.inj ((shown.styled mark member).symm.trans chosen)
    · intro pen
      exact foldl_renditionInstructions pen _ _
    · intro done
      exact shown.complete done window pane text about found worded

/-- A bold window in red on black, after the full screen was drawn on in its own style. -/
theorem text_in_style_of_second_window :
    let front : List Call := [.openSession, .createWindow ⟨1, 4⟩ ⟨1, 0⟩, .allocatePair .red .black,
      .applyAttribute 1 (.style (.single .bold)) .set, .applyAttribute 1 (.pair 1) .enable,
      .horizontalLine 0 '-' 2]
    let before := (headless {} ⟨2, 4⟩).afterCalls front
    ∃ fresh, (perform (.horizontalLine 1 '=' 2) before).terminal.marks = before.marks ++ fresh ∧
      fresh.map (·.character) = ['=', '='] ∧
      ∀ mark ∈ fresh, mark.pen = ⟨some .red, some .black, {.bold}⟩ := by
  intro front before
  rcases text_in_style_of_window (headless {} ⟨2, 4⟩) front [] (.horizontalLine 1 '=' 2) with
    ⟨fresh, _, printed, _, _, styled⟩
  have found : before.panes.get? 1 = some
      { origin := ⟨1, 0⟩, size := ⟨1, 4⟩, rendition := ⟨.single .bold, 1⟩ } := by
    decide +kernel
  have answered : (perform (.horizontalLine 1 '=' 2) before).answer.isOk = true := by
    decide +kernel
  have chosen : Pen.showing before.pairs ⟨.single .bold, 1⟩ =
      ⟨some .red, some .black, {.bold}⟩ := by decide +kernel
  rcases styled 1 _ ['=', '='] rfl found rfl with ⟨pens, _, complete⟩
  refine ⟨fresh, printed, complete answered, ?_⟩
  intro mark member
  exact (pens mark member).trans chosen

/-- A character that is typed in a bold window is shown as it was printed last, not bold. -/
theorem typed_text_in_foreign_style :
    ¬ ∀ (start : Screen) (front : List Call) (call : Call) (window : Handle) (pane : Pane)
        (fresh : List Mark),
      call.window? = some window → (start.afterCalls front).panes.get? window = some pane →
      ((call.text? pane).isSome ∨ call = .readInput window) →
      (perform call (start.afterCalls front)).terminal.marks =
        (start.afterCalls front).marks ++ fresh →
      ∀ mark ∈ fresh, mark.pen = .showing (start.afterCalls front).pairs pane.rendition := by
  intro always
  let typed : Device := { events := [.event (.key { cap := .char 'a' } false)] }
  let front : List Call := [.openSession, .setRawMode true true,
    .applyAttribute 0 (.style (.single .bold)) .set]
  have styled := always (headless typed ⟨2, 4⟩) front (.readInput 0) 0 _ [⟨'a', {}⟩] rfl rfl
    (.inr rfl) rfl ⟨'a', {}⟩ (List.mem_singleton.mpr rfl)
  exact absurd styled (by decide)

end Screen

end TerminalSession
