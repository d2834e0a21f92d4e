import TerminalSession.Proofs.SentInstructions

/-! # Output without control characters

As long as a session runs, what its screen writes is text without control characters and sequences
of its own making, and the alternate screen is neither entered nor left. This holds whatever the
windows are and whatever is typed, if the texts that are drawn have no control characters. A line
end may be among them: it moves the cursor and is not printed. -/

namespace TerminalSession

namespace Screen

def Clean (text : List Char) : Prop := ∀ character ∈ text, Text.isControl character = false

def Harmless (character : Char) : Prop := character = '\n' ∨ Text.isControl character = false

/-- Neither the beginning of a session nor its end, nor a text with a control character. -/
def Instruction.Tame : Instruction → Prop
  | .print text => Clean text.toList
  | .enterAlternateScreen | .leaveAlternateScreen => False
  | _ => True

structure Unlimited (screen : Screen) : Prop where
  room : screen.device.output.room = none
  flushes : screen.device.output.flushesLeft = none

/-- Between the two screens only tame instructions were written, and no session started or
ended. -/
structure Adds (before after : Screen) : Prop where
  isOpen : after.isOpen = before.isOpen
  owner : after.ownsDevice = before.ownsDevice
  written : before.Unlimited → after.Unlimited ∧ ∃ sent : List Instruction,
    (∀ instruction ∈ sent, instruction.Tame) ∧
      after.device.output.written =
        (sent.map Written.whole).reverse ++ before.device.output.written

theorem adds_of_eq {before after : Screen} (isOpen : after.isOpen = before.isOpen)
    (owner : after.ownsDevice = before.ownsDevice)
    (output : after.device.output = before.device.output) : Adds before after where
  isOpen := isOpen
  owner := owner
  written := fun unlimited =>
    ⟨⟨output ▸ unlimited.room, output ▸ unlimited.flushes⟩, [], List.forall_mem_nil _,
      congrArg Output.written output⟩

instance : Std.Refl Adds := ⟨fun _ => adds_of_eq rfl rfl rfl⟩

instance : IsTrans Screen Adds where
  trans first middle last before after := by
    refine ⟨after.isOpen.trans before.isOpen, after.owner.trans before.owner, ?_⟩
    intro unlimited
    rcases before.written unlimited with ⟨still, sent, tame, written⟩
    rcases after.written still with ⟨again, more, tameToo, later⟩
    refine ⟨again, sent ++ more, ?_, ?_⟩
    · intro instruction member
      rcases List.mem_append.mp member with early | late
      · exact tame instruction early
      · exact tameToo instruction late
    · rw [later, written, List.map_append, List.reverse_append, List.append_assoc]

/-! ## What is drawn

Of what is typed only that is shown which is no control character. -/

theorem clean_replicate {character : Char} (visible : Text.isControl character = false)
    (count : Nat) : Clean (Text.replicate count character).toList := by
  intro other member
  rw [Text.replicate, String.toList_ofList] at member
  rw [List.eq_of_mem_replicate member]
  exact visible

theorem clean_singleton {character : Char} (visible : Text.isControl character = false) :
    Clean character.toString.toList := by
  rw [Char.toString_eq_singleton, String.toList_singleton]
  exact List.forall_mem_singleton.mpr visible

theorem clean_append {first second : String} (before : Clean first.toList)
    (after : Clean second.toList) : Clean (first ++ second).toList := by
  intro character member
  rw [String.toList_append] at member
  rcases List.mem_append.mp member with early | late
  · exact before character early
  · exact after character late

variable {pane : Pane} {text : String} {character : Char}

theorem tame_printAt (position : Position) (clean : Clean text.toList) :
    ∀ instruction ∈ printAt pane position text, instruction.Tame :=
  List.forall_mem_cons.mpr ⟨trivial, List.forall_mem_singleton.mpr clean⟩

theorem tame_flatMap {count : Nat} {rows : Nat → List Instruction}
    (each : ∀ row, ∀ instruction ∈ rows row, instruction.Tame) :
    ∀ instruction ∈ (List.range count).flatMap rows, instruction.Tame := by
  intro instruction member
  rcases List.mem_flatMap.mp member with ⟨row, _, among⟩
  exact each row instruction among

theorem tame_putCharacter (harmless : Harmless character) :
    ∀ instruction ∈ (putCharacter pane character).1, instruction.Tame := by
  rcases harmless with rfl | visible
  · exact List.forall_mem_nil _
  · unfold putCharacter
    dsimp only
    split
    · exact tame_printAt _ (clean_singleton visible)
    · exact List.forall_mem_nil _

theorem tame_blankRows : ∀ instruction ∈ blankRows pane, instruction.Tame :=
  tame_flatMap fun _ => tame_printAt _ (clean_replicate (by decide) _)

theorem tame_horizontalRun (visible : Text.isControl character = false) (length : Coordinate) :
    ∀ instruction ∈ horizontalRun pane character length, instruction.Tame :=
  tame_printAt _ (clean_replicate visible _)

theorem tame_verticalRun (visible : Text.isControl character = false) (length : Coordinate) :
    ∀ instruction ∈ verticalRun pane character length, instruction.Tame :=
  tame_flatMap fun _ => tame_printAt _ (clean_singleton visible)

theorem tame_append {first second : List Instruction}
    (before : ∀ instruction ∈ first, instruction.Tame)
    (after : ∀ instruction ∈ second, instruction.Tame) :
    ∀ instruction ∈ first ++ second, instruction.Tame := by
  intro instruction member
  rcases List.mem_append.mp member with early | late
  · exact before instruction early
  · exact after instruction late

theorem clean_edge {left middle right : Char} (start : Text.isControl left = false)
    (between : Text.isControl middle = false) (last : Text.isControl right = false) :
    Clean (edge pane left middle right).toList :=
  clean_append (clean_append (clean_singleton start) (clean_replicate between _))
    (clean_singleton last)

theorem tame_borderRows {glyphs : BorderGlyphs} (clean : Clean glyphs.toList) :
    ∀ instruction ∈ borderRows pane glyphs, instruction.Tame := by
  have sides : ∀ row, ∀ instruction ∈
      printAt pane ⟨.clip (row + 1), 0⟩ glyphs.left.toString ++
        printAt pane ⟨.clip (row + 1), pane.size.cols.last⟩ glyphs.right.toString,
      instruction.Tame := fun _ =>
    tame_append (tame_printAt _ (clean_singleton (clean _ (by simp [BorderGlyphs.toList]))))
      (tame_printAt _ (clean_singleton (clean _ (by simp [BorderGlyphs.toList]))))
  refine tame_append (tame_append (tame_printAt _ (clean_edge ?_ ?_ ?_)) (tame_flatMap sides))
    (tame_printAt _ (clean_edge ?_ ?_ ?_)) <;>
  exact clean _ (by simp [BorderGlyphs.toList])

theorem tame_renditionInstructions (pairs : Array (Color × Color)) (rendition : Rendition) :
    ∀ instruction ∈ renditionInstructions pairs rendition, instruction.Tame := by
  have resets : ∀ instruction ∈ [Instruction.resetAttributes, .resetColors], instruction.Tame := by
    simp [Instruction.Tame]
  refine tame_append (tame_append resets ?_) ?_
  · split
    · exact List.forall_mem_nil _
    · split
      · simp [Instruction.Tame]
      · exact List.forall_mem_nil _
  · intro instruction member
    rcases List.mem_filterMap.mp member with ⟨flag, _, shown⟩
    rcases Option.map_eq_some_iff.mp shown with ⟨graphic, _, rfl⟩
    trivial

/-! ## What work adds -/

section

variable {α : Type} {window : Handle}

theorem adds_write {instruction : Instruction} (tame : instruction.Tame) :
    Leaves Adds (write instruction) := by
  intro start
  unfold Ends write Output.write
  cases room : start.device.output.room with
  | none =>
      refine ⟨rfl, rfl, fun unlimited => ⟨⟨rfl, unlimited.flushes⟩, [instruction], ?_, rfl⟩⟩
      exact List.forall_mem_singleton.mpr tame
  | some left =>
      have limited : ∀ {stop : Screen}, start.Unlimited → stop.Unlimited ∧ ∃ sent : List Instruction,
          (∀ instruction ∈ sent, instruction.Tame) ∧
            stop.device.output.written =
              (sent.map Written.whole).reverse ++ start.device.output.written := by
        intro stop unlimited
        rw [unlimited.room] at room
        cases room
      by_cases fits : instruction.text.utf8ByteSize ≤ left
      · simp only [fits, if_true]
        exact ⟨rfl, rfl, limited⟩
      · simp only [fits, if_false]
        exact ⟨rfl, rfl, limited⟩

theorem adds_flush : Leaves Adds flush := by
  intro start
  unfold Ends flush Output.flush
  cases flushes : start.device.output.flushesLeft with
  | none =>
      exact ⟨rfl, rfl, fun unlimited => ⟨⟨unlimited.room, rfl⟩, [], List.forall_mem_nil _, rfl⟩⟩
  | some left =>
      cases left with
      | zero => exact adds_of_eq rfl rfl rfl
      | succ left =>
          refine ⟨rfl, rfl, fun unlimited => ?_⟩
          rw [unlimited.flushes] at flushes
          cases flushes

theorem adds_forM {step : α → Work PUnit} {members : List α}
    (body : ∀ member ∈ members, Leaves Adds (step member)) : Leaves Adds (members.forM step) := by
  induction members with
  | nil => exact .pure _
  | cons member rest induction =>
      rw [List.forall_mem_cons] at body
      exact body.1.bind fun _ => induction body.2

theorem adds_writeAll {instructions : List Instruction}
    (tame : ∀ instruction ∈ instructions, instruction.Tame) :
    Leaves Adds (writeAll instructions) :=
  adds_forM fun instruction member => adds_write (tame instruction member)

theorem adds_setPane (pane : Pane) : Leaves Adds (setPane window pane) :=
  .modify fun _ => adds_of_eq rfl rfl rfl

theorem adds_setRendition (rendition : Rendition) : Leaves Adds (setRendition rendition) :=
  .get_bind fun _ => adds_writeAll (tame_renditionInstructions _ rendition)

theorem adds_putCell (harmless : Harmless character) : Leaves Adds (putCell window character) := by
  apply Leaves.pane_bind
  intro pane
  exact (adds_writeAll (tame_putCharacter harmless)).bind fun _ => adds_setPane _

theorem adds_blank : Leaves Adds (blank window) := by
  apply Leaves.pane_bind
  intro pane
  apply (adds_setRendition _).bind
  intro _
  exact (adds_writeAll tame_blankRows).bind fun _ => adds_setPane _

theorem harmless_of_echoed {code : Code} (shown : echoed? code = some character) :
    Harmless character := by
  unfold echoed? at shown
  dsimp only at shown
  split at shown
  · split at shown
    · cases shown
    · rename_i allowed
      cases shown
      unfold Harmless
      cases control : Text.isControl (Char.ofNat code) with
      | false => exact .inr rfl
      | true => exact .inl (by simpa [control] using allowed)
  · cases shown

theorem adds_takeIn (codes : List Code) : Leaves Adds (takeIn window codes) := by
  have queued : Leaves Adds (modify fun screen : Screen =>
      { screen with queue := screen.queue.accept screen.cbreak codes }) :=
    .modify fun _ => adds_of_eq rfl rfl rfl
  apply Leaves.get_bind
  intro screen
  cases screen.echo with
  | false => exact queued
  | true =>
      have shown : Leaves Adds ((codes.filterMap echoed?).forM (putCell window)) := by
        apply adds_forM
        intro character member
        rcases List.mem_filterMap.mp member with ⟨code, _, typed⟩
        exact adds_putCell (harmless_of_echoed typed)
      exact shown.bind fun _ => adds_flush.bind fun _ => queued

theorem adds_readCode : Leaves Adds (readCode window) :=
  .readCode (fun _ _ => adds_of_eq rfl rfl rfl) (fun _ _ => adds_of_eq rfl rfl rfl)
    (fun keypad heard => .codesOf (fun _ _ _ => adds_of_eq rfl rfl rfl) keypad heard) adds_takeIn

end

/-! ## Calls -/

end Screen

def Call.Tame : Call → Prop
  | .openSession | .closeSession => False
  | .drawBorder _ border => Screen.Clean border.glyphs.toList
  | .putChar _ character => Screen.Harmless character
  | .putText _ text => ∀ character ∈ text.toList, Screen.Harmless character
  | .horizontalLine _ character _ | .verticalLine _ character _ =>
      Text.isControl character = false
  | _ => True

namespace Screen

theorem adds_modifyPane (window : Handle) (change : Pane → Pane) :
    Leaves Adds (do setPane window (change (← pane window))) :=
  .pane_bind window fun _ => adds_setPane _

theorem adds_answer {call : Call} (tame : call.Tame) : Leaves Adds (answer call) := by
  have quiet : ∀ change : Screen → Screen, (∀ screen, Adds screen (change screen)) →
      Leaves Adds (modify change) := fun _ changed => .modify changed
  cases call with
  | openSession | closeSession => cases tame
  | setRawMode cbreak echo => exact quiet _ fun _ => adds_of_eq rfl rfl rfl
  | setCursor visibility =>
      have shaped : ∀ instruction ∈ cursorInstructions visibility, instruction.Tame := by
        cases visibility <;> simp [cursorInstructions, Instruction.Tame]
      exact (adds_writeAll shaped).bind fun _ => adds_flush
  | createWindow size origin => exact fun start => adds_of_eq rfl rfl rfl
  | destroyWindow window =>
      exact .pane_bind window fun _ => quiet _ fun _ => adds_of_eq rfl rfl rfl
  | drawBorder window border =>
      apply Leaves.pane_bind
      intro pane
      split
      · exact (adds_setRendition _).bind fun _ => adds_writeAll (tame_borderRows tame)
      · exact .pure _
  | putChar window character =>
      apply Leaves.pane_bind
      intro pane
      exact (adds_setRendition _).bind fun _ => adds_putCell tame
  | putText window text =>
      apply Leaves.pane_bind
      intro pane
      apply (adds_setRendition _).bind
      intro _
      exact adds_forM fun character member => adds_putCell (tame character member)
  | horizontalLine window character length =>
      apply Leaves.pane_bind
      intro pane
      exact (adds_setRendition _).bind fun _ => adds_writeAll (tame_horizontalRun tame length)
  | verticalLine window character length =>
      apply Leaves.pane_bind
      intro pane
      exact (adds_setRendition _).bind fun _ => adds_writeAll (tame_verticalRun tame length)
  | clear window =>
      have clears : Instruction.clearAll.Tame := trivial
      simp only [answer]
      split
      · exact (adds_write clears).bind fun _ => adds_blank
      · exact adds_blank
  | erase window => exact adds_blank
  | refresh window =>
      apply Leaves.pane_bind
      intro pane
      have moves : (Instruction.moveTo (pane.toScreen pane.cursor)).Tame := trivial
      exact (adds_write moves).bind fun _ => adds_flush
  | windowPosition window | windowSize window => exact .pane_bind window fun _ => .pure _
  | readInput window => exact adds_readCode
  | startColor | specialKeys => exact .pure _
  | allocatePair foreground background =>
      exact .allocatePair (fun _ _ => adds_of_eq rfl rfl rfl) foreground background
  | _ => exact adds_modifyPane _ _

theorem adds_perform {call : Call} (tame : call.Tame) (screen : Screen) :
    Adds screen (perform call screen).terminal :=
  perform_rule (motive := fun reply => Adds screen reply.terminal) (adds_answer tame screen)

end Screen

end TerminalSession
