import Mathlib.Data.Finset.Lattice.Lemmas
import TerminalSession.Proofs.ScreenWork

/-! # How a device reads its output

A device knows nothing of windows. It shows what is printed in the colors and with the graphics that
were chosen last, for whatever window that was. Here the output is read the way a device reads it:
as instructions that choose a pen, and characters that are printed with it. -/

namespace TerminalSession.Screen

structure Pen where
  foreground : Option Color := none
  background : Option Color := none
  graphics : Finset Graphic := ∅
deriving DecidableEq

/-! A character that was printed is marked with the pen there was. -/

structure Mark where
  character : Char
  pen : Pen
deriving DecidableEq

/-- The pen after an instruction. Attributes and colors are reset by the same sequence, and it
resets both. -/
def Pen.after (pen : Pen) : Instruction → Pen
  | .resetAttributes | .resetColors => {}
  | .foreground color => { pen with foreground := some color }
  | .background color => { pen with background := some color }
  | .graphic graphic => { pen with graphics := insert graphic pen.graphics }
  | _ => pen

def Pen.showing (pairs : Array (Color × Color)) (rendition : Rendition) : Pen :=
  let colors := if rendition.pair = 0 then none else pairs[rendition.pair - 1]?
  { foreground := colors.map Prod.fst
    background := colors.map Prod.snd
    graphics := (rendition.style.flags.filterMap Graphic.ofFlag?).toFinset }

def Instruction.characters : Instruction → List Char
  | .print text => text.toList
  | _ => []

def Written.pen (before : Pen) : Written → Pen
  | .whole instruction => before.after instruction
  | .cut _ _ => before

def Written.characters : Written → List Char
  | .whole instruction => instruction.characters
  | .cut instruction bytes => cutText instruction.characters bytes

def penAfter : List Written → Pen
  | [] => {}
  | part :: earlier => part.pen (penAfter earlier)

def marksOf : List Written → List Mark
  | [] => []
  | part :: earlier => marksOf earlier ++ part.characters.map (Mark.mk · (penAfter earlier))

def pen (screen : Screen) : Pen := penAfter screen.device.output.written

def marks (screen : Screen) : List Mark := marksOf screen.device.output.written

/-! ## Choosing a pen

A sequence that was cut off chooses nothing, and whatever was chosen before, what is sent for a
rendition chooses its pen. -/

theorem foldl_graphic (pen : Pen) (graphics : List Graphic) :
    (graphics.map Instruction.graphic).foldl Pen.after pen =
      { pen with graphics := graphics.toFinset ∪ pen.graphics } := by
  induction graphics generalizing pen with
  | nil => simp
  | cons graphic rest induction =>
      simp [induction, Pen.after, Finset.union_insert]

/-- Whatever was chosen before, what is sent for a rendition chooses its pen. -/
theorem foldl_renditionInstructions (pen : Pen) (pairs : Array (Color × Color))
    (rendition : Rendition) :
    (renditionInstructions pairs rendition).foldl Pen.after pen = .showing pairs rendition := by
  have graphics : (rendition.style.flags.filterMap fun flag =>
      (Graphic.ofFlag? flag).map Instruction.graphic) =
        (rendition.style.flags.filterMap Graphic.ofFlag?).map Instruction.graphic := by
    rw [List.map_filterMap]
  simp only [renditionInstructions, graphics, List.foldl_append, foldl_graphic, Pen.showing]
  by_cases default : rendition.pair = 0
  · simp [default, Pen.after]
  · cases found : pairs[rendition.pair - 1]? with
    | none => simp [default, Pen.after]
    | some colors => simp [default, Pen.after]

/-! ## What drawings print

A character is printed unless it starts a line. -/

def Keeps (instruction : Instruction) : Prop := ∀ pen : Pen, pen.after instruction = pen

theorem keeps_printAt {pane : Pane} {position : Position} {text : String} :
    ∀ instruction ∈ printAt pane position text, Keeps instruction := by
  intro instruction member
  rcases List.mem_pair.mp member with rfl | rfl
  · intro _
    rfl
  · intro _
    rfl

theorem characters_printAt (pane : Pane) (position : Position) (text : String) :
    (printAt pane position text).flatMap Instruction.characters = text.toList := by
  simp [printAt, Instruction.characters]

theorem keeps_flatMap {α : Type} {drawing : α → List Instruction} {members : List α}
    (keep : ∀ member, ∀ instruction ∈ drawing member, Keeps instruction) :
    ∀ instruction ∈ members.flatMap drawing, Keeps instruction := by
  intro instruction drawn
  rcases List.mem_flatMap.mp drawn with ⟨member, _, part⟩
  exact keep member instruction part

theorem keeps_putCharacter (pane : Pane) (character : Char) :
    ∀ instruction ∈ (putCharacter pane character).1, Keeps instruction := by
  intro instruction member
  rw [putCharacter] at member
  dsimp only at member
  split at member
  · exact keeps_printAt instruction member
  · cases member

theorem characters_putCharacter (pane : Pane) (character : Char) :
    (putCharacter pane character).1.flatMap Instruction.characters =
      [character].filter (· ≠ '\n') := by
  by_cases line : character = '\n'
  · simp [putCharacter, place, line]
  · simp [putCharacter, place, line, characters_printAt]

theorem keeps_verticalRun (pane : Pane) (character : Char) (length : Coordinate) :
    ∀ instruction ∈ verticalRun pane character length, Keeps instruction :=
  keeps_flatMap fun _ => keeps_printAt

theorem characters_verticalRun (pane : Pane) (character : Char) (length : Coordinate) :
    (verticalRun pane character length).flatMap Instruction.characters =
      List.replicate (length.least (pane.size.rows.rest pane.cursor.row)).toNat character := by
  simp [verticalRun, List.flatMap_assoc, characters_printAt, ← List.map_eq_flatMap]

theorem keeps_horizontalRun (pane : Pane) (character : Char) (length : Coordinate) :
    ∀ instruction ∈ horizontalRun pane character length, Keeps instruction := keeps_printAt

theorem characters_horizontalRun (pane : Pane) (character : Char) (length : Coordinate) :
    (horizontalRun pane character length).flatMap Instruction.characters =
      List.replicate (length.least (pane.size.cols.rest pane.cursor.col)).toNat character := by
  rw [horizontalRun, characters_printAt, Text.replicate, String.toList_ofList]

theorem keeps_blankRows (pane : Pane) :
    ∀ instruction ∈ blankRows pane, Keeps instruction := keeps_flatMap fun _ => keeps_printAt

theorem keeps_borderRows (pane : Pane) (glyphs : BorderGlyphs) :
    ∀ instruction ∈ borderRows pane glyphs, Keeps instruction := by
  intro instruction member
  rw [borderRows, List.mem_append, List.mem_append] at member
  rcases member with (top | sides) | bottom
  · exact keeps_printAt instruction top
  · refine keeps_flatMap ?_ instruction sides
    intro _ part member
    rcases List.mem_append.mp member with left | right
    · exact keeps_printAt part left
    · exact keeps_printAt part right
  · exact keeps_printAt instruction bottom

/-! ## Printing with the pen at hand -/

structure Inks (characters : List Char) (before after : Screen) : Prop where
  pen : after.pen = before.pen
  marks : after.marks = before.marks ++ characters.map (Mark.mk · before.pen)

def Inked (before after : Screen) : Prop := ∃ characters, Inks characters before after

def Letters {α : Type} (characters : List Char) (work : Work α) : Prop :=
  ∀ start, Ends work start (fun _ stop => Inks characters start stop)
    (fun _ stop => Inked start stop)

variable {start middle stop : Screen} {window : Handle} {characters : List Char} {α β : Type}

theorem Inks.trans {first second : List Char} (before : Inks first start middle)
    (after : Inks second middle stop) : Inks (first ++ second) start stop where
  pen := after.pen.trans before.pen
  marks := by
    rw [after.marks, before.marks, before.pen, List.map_append, List.append_assoc]

theorem Inks.of_written (same : stop.device.output.written = start.device.output.written) :
    Inks [] start stop where
  pen := congrArg penAfter same
  marks := (congrArg marksOf same).trans (List.append_nil _).symm

theorem Inked.of_written (same : stop.device.output.written = start.device.output.written) :
    Inked start stop := ⟨[], .of_written same⟩

instance : Std.Refl Inked := ⟨fun _ => .of_written rfl⟩

instance : IsTrans Screen Inked where
  trans := by
    intro _ _ _ before after
    rcases before with ⟨first, before⟩
    rcases after with ⟨second, after⟩
    exact ⟨first ++ second, before.trans after⟩

namespace Letters

theorem leaves {work : Work α} (letters : Letters characters work) : Leaves Inked work := by
  intro start
  apply (letters start).mono
  · intro _ stop inks
    exact ⟨characters, inks⟩
  · intro _ stop inked
    exact inked

theorem pure (value : α) : Letters [] (Pure.pure value) := by
  intro start
  exact .of_written rfl

theorem modify {change : Screen → Screen}
    (same : ∀ screen, (change screen).device.output = screen.device.output) :
    Letters [] (modify change) := by
  intro start
  exact .of_written (congrArg Output.written (same start))

theorem bind {first second : List Char} {work : Work α} {next : α → Work β}
    (letters : Letters first work) (rest : ∀ value, Letters second (next value)) :
    Letters (first ++ second) (work >>= next) := by
  intro start
  rw [ends_bind]
  apply (letters start).mono
  · intro value middle before
    apply (rest value middle).mono
    · intro _ stop after
      exact before.trans after
    · intro _ stop after
      exact IsTrans.trans _ _ _ ⟨first, before⟩ after
  · intro _ stop inked
    exact inked

theorem forM {step : α → Work PUnit} {text : α → List Char} {members : List α}
    (body : ∀ member ∈ members, Letters (text member) (step member)) :
    Letters (members.flatMap text) (members.forM step) := by
  induction members with
  | nil => exact pure _
  | cons member rest induction =>
      have first := body member List.mem_cons_self
      have others := induction fun other later => body other (List.mem_cons_of_mem _ later)
      exact first.bind fun _ => others

theorem pane_bind {next : Pane → Work α} (rest : ∀ pane, Letters characters (next pane)) :
    Letters characters (pane window >>= next) := by
  intro start
  rw [ends_bind]
  simp only [pane, ends_bind, ends_get]
  cases start.panes.get? window with
  | none => exact Inked.of_written rfl
  | some pane => exact rest pane start

theorem write {instruction : Instruction} (keeps : Keeps instruction) :
    Letters instruction.characters (write instruction) := by
  intro start
  apply ends_write
  · intro _
    exact ⟨keeps start.pen, rfl⟩
  · intro bytes
    exact ⟨cutText instruction.characters bytes, rfl, rfl⟩

theorem flush : Letters [] flush := by
  intro start
  apply ends_flush
  · intro _
    exact .of_written rfl
  · exact .of_written rfl

theorem writeAll {instructions : List Instruction}
    (keep : ∀ instruction ∈ instructions, Keeps instruction) :
    Letters (instructions.flatMap Instruction.characters) (writeAll instructions) :=
  forM fun instruction member => write (keep instruction member)

theorem putCell (character : Char) :
    Letters ([character].filter (· ≠ '\n')) (putCell window character) := by
  apply pane_bind
  intro pane
  have moved : Letters [] (Screen.setPane window (putCharacter pane character).2) :=
    modify fun _ => rfl
  have printed := (writeAll (keeps_putCharacter pane character)).bind fun _ => moved
  rw [characters_putCharacter, List.append_nil] at printed
  exact printed

end Letters

/-! ## Choosing a pen and printing with it

Choosing a rendition prints nothing. If it succeeds, what comes next is printed with its pen. -/

def Shows (pen : Pen) (characters : List Char) (before after : Screen) : Prop :=
  after.marks = before.marks ++ characters.map (Mark.mk · pen)

def Silent (before after : Screen) : Prop := after.marks = before.marks

instance : Std.Refl Silent := ⟨fun _ => rfl⟩

instance : IsTrans Screen Silent := ⟨fun _ _ _ first second => second.trans first⟩

theorem silent_of_part {part : Written} (silent : part.characters = [])
    (written : stop.device.output.written = part :: start.device.output.written) :
    Silent start stop := by
  rw [Silent, marks, written, marksOf, silent, List.map_nil, List.append_nil]
  rfl

theorem write_silent {instruction : Instruction} (silent : instruction.characters = []) :
    Ends (write instruction) start
      (fun _ stop => stop.pen = start.pen.after instruction ∧ Silent start stop)
      (fun _ stop => Silent start stop) := by
  have whole : (Written.whole instruction).characters = [] := silent
  have cut : ∀ bytes, (Written.cut instruction bytes).characters = [] := by
    intro bytes
    rw [Written.characters, silent, cutText]
  apply ends_write
  · intro _
    exact ⟨rfl, silent_of_part whole rfl⟩
  · intro bytes
    exact silent_of_part (cut bytes) rfl

theorem writeAll_silent {instructions : List Instruction}
    (silent : ∀ instruction ∈ instructions, instruction.characters = []) :
    Ends (writeAll instructions) start
      (fun _ stop => stop.pen = instructions.foldl Pen.after start.pen ∧ Silent start stop)
      (fun _ stop => Silent start stop) := by
  induction instructions generalizing start with
  | nil => exact ⟨rfl, rfl⟩
  | cons instruction rest induction =>
      change Ends (write instruction >>= fun _ => writeAll rest) start _ _
      rw [ends_bind]
      apply (write_silent (silent instruction List.mem_cons_self)).mono
      · intro _ middle wrote
        have quiet : ∀ other ∈ rest, other.characters = [] := fun other later =>
          silent other (List.mem_cons_of_mem _ later)
        apply Ends.mono (induction quiet)
        · intro _ stop done
          exact ⟨by rw [done.1, wrote.1, List.foldl_cons], done.2.trans wrote.2⟩
        · intro _ stop quiet
          exact quiet.trans wrote.2
      · intro _ stop quiet
        exact quiet

theorem silent_renditionInstructions (pairs : Array (Color × Color)) (rendition : Rendition) :
    ∀ instruction ∈ renditionInstructions pairs rendition, instruction.characters = [] := by
  intro instruction member
  simp only [renditionInstructions, List.mem_append] at member
  rcases member with (resets | colors) | graphics
  · rcases List.mem_pair.mp resets with rfl | rfl
    · rfl
    · rfl
  · split at colors
    · cases colors
    · split at colors
      · rcases List.mem_pair.mp colors with rfl | rfl
        · rfl
        · rfl
      · cases colors
  · rcases List.mem_filterMap.mp graphics with ⟨flag, _, chosen⟩
    rcases Option.map_eq_some_iff.mp chosen with ⟨graphic, _, rfl⟩
    rfl

theorem setRendition_chooses (rendition : Rendition) :
    Ends (setRendition rendition) start
      (fun _ stop => stop.pen = .showing start.pairs rendition ∧ Silent start stop)
      (fun _ stop => Silent start stop) := by
  rw [setRendition, ends_bind, ends_get]
  apply (writeAll_silent (silent_renditionInstructions start.pairs rendition)).mono
  · intro _ stop done
    rw [foldl_renditionInstructions] at done
    exact done
  · intro _ stop quiet
    exact quiet

theorem Inks.shows {pen : Pen} (inks : Inks characters middle stop) (chosen : middle.pen = pen)
    (quiet : Silent start middle) : Shows pen characters start stop := by
  have same : middle.marks = start.marks := quiet
  rw [Shows, inks.marks, chosen, same]

/-- What is printed after a rendition was chosen is printed with its pen. -/
theorem shows_of_letters {work : Work α} (letters : Letters characters work)
    (rendition : Rendition) :
    Ends (setRendition rendition >>= fun _ => work) start
      (fun _ stop => Shows (.showing start.pairs rendition) characters start stop)
      (fun _ stop => ∃ some, Shows (.showing start.pairs rendition) some start stop) := by
  rw [ends_bind]
  apply (setRendition_chooses rendition).mono
  · intro _ middle chosen
    apply (letters middle).mono
    · intro _ stop inks
      exact inks.shows chosen.1 chosen.2
    · intro _ stop inked
      rcases inked with ⟨some, inks⟩
      exact ⟨some, inks.shows chosen.1 chosen.2⟩
  · intro _ stop quiet
    exact ⟨[], quiet.trans (List.append_nil _).symm⟩

end TerminalSession.Screen
