import TerminalSession.Proofs.Pictures

/-! # How far lines reach

A line is as long as its window has columns, or rows, from the cursor on. That is counted in
characters, so a line of characters that are wider than one column can still reach out of its
window. -/

namespace TerminalSession

namespace Pane

variable {pane : Pane}

def Covers (pane : Pane) (row col : Nat) : Prop :=
  (pane.origin.row.toNat ≤ row ∧ row < pane.origin.row.toNat + pane.size.rows.toNat) ∧
    pane.origin.col.toNat ≤ col ∧ col < pane.origin.col.toNat + pane.size.cols.toNat

instance (pane : Pane) (row col : Nat) : Decidable (pane.Covers row col) :=
  inferInstanceAs (Decidable (_ ∧ _))

def Holds (pane : Pane) (picture : Screen.Cells) : Prop :=
  ∀ row col, picture row col ≠ none → pane.Covers row col

/-- A rectangle of one character is in the pane if it is empty or its sides are. -/
theorem holds_box_iff (top left height width : Nat) (character : Char) :
    pane.Holds (.box (pane.origin.row.toNat + top) (pane.origin.col.toNat + left) height width
        character) ↔
      height = 0 ∨ width = 0 ∨
        top + height ≤ pane.size.rows.toNat ∧ left + width ≤ pane.size.cols.toNat := by
  constructor
  · intro holds
    by_cases empty : height = 0 ∨ width = 0
    · omega
    · have corner := holds (pane.origin.row.toNat + top + (height - 1))
        (pane.origin.col.toNat + left + (width - 1))
      rw [ne_eq, Screen.Cells.box_eq_none_iff, Decidable.not_not] at corner
      simp only [Covers] at corner
      omega
  · intro fits row col painted
    rw [ne_eq, Screen.Cells.box_eq_none_iff, Decidable.not_not] at painted
    simp only [Covers]
    omega

end Pane

namespace Screen

variable {pane : Pane} {start : Screen} {window : Handle} {character : Char}

/-! ## What lines show -/

def lengthRight (pane : Pane) (length : Coordinate) : Nat :=
  min length.toNat (pane.size.cols.toNat - pane.cursor.col.toNat)

def lengthDown (pane : Pane) (length : Coordinate) : Nat :=
  min length.toNat (pane.size.rows.toNat - pane.cursor.row.toNat)

def lineCells (pane : Pane) (height width : Nat) (character : Char) : Cells :=
  .box (pane.origin.row.toNat + pane.cursor.row.toNat)
    (pane.origin.col.toNat + pane.cursor.col.toNat) height width character

theorem depicts_horizontalRun (placed : pane.OnScreen)
    (row : pane.cursor.row.toNat < pane.size.rows.toNat)
    (col : pane.cursor.col.toNat < pane.size.cols.toNat) (wide : 1 ≤ Text.width character)
    (length : Coordinate) :
    Depicts id (horizontalRun pane character length)
      (lineCells pane 1 (lengthRight pane length * Text.width character) character) := by
  have count : (length.least (pane.size.cols.rest pane.cursor.col)).toNat =
      lengthRight pane length := by
    rw [Coordinate.toNat_least, Coordinate.toNat_rest, lengthRight]
  have legible : Legible (Text.replicate (lengthRight pane length) character).toList := by
    rw [toList_replicate]
    exact legible_replicate wide _
  have drawn := depicts_printAt placed pane.cursor row col legible
  rw [toList_replicate, Line.ofText_replicate] at drawn
  rw [horizontalRun, count]
  exact drawn

theorem depicts_verticalRun (placed : pane.OnScreen)
    (col : pane.cursor.col.toNat < pane.size.cols.toNat) (wide : 1 ≤ Text.width character)
    (length : Coordinate) :
    Depicts id (verticalRun pane character length)
      (lineCells pane (lengthDown pane length) (Text.width character) character) := by
  have count : (length.least (pane.size.rows.rest pane.cursor.row)).toNat =
      lengthDown pane length := by
    rw [Coordinate.toNat_least, Coordinate.toNat_rest, lengthDown]
  rw [verticalRun, count]
  apply Depicts.rows
  intro step bound
  have within : pane.cursor.row.toNat + step < pane.size.rows.toNat := by
    rw [lengthDown] at bound
    omega
  have last := pane.size.rows.toNat_lt
  have index : (pane.cursor.row.ahead step).toNat = pane.cursor.row.toNat + step :=
    Coordinate.toNat_ahead _ (Nat.le_of_lt_succ (Nat.lt_trans within last))
  have drawn := depicts_character placed ⟨pane.cursor.row.ahead step, pane.cursor.col⟩
    (index.symm ▸ within) col wide
  rw [index, ← Nat.add_assoc] at drawn
  exact drawn

theorem horizontalLine_paints (found : start.panes.get? window = some pane)
    (placed : pane.OnScreen) (row : pane.cursor.row.toNat < pane.size.rows.toNat)
    (col : pane.cursor.col.toNat < pane.size.cols.toNat) (wide : 1 ≤ Text.width character)
    (length : Coordinate) :
    Painted start (perform (.horizontalLine window character length) start) id
      (lineCells pane 1 (lengthRight pane length * Text.width character) character) := by
  apply painted_in_rendition (depicts_horizontalRun placed row col wide length)
  rw [answer, sends_found_pane found]
  exact sends_drawing _ _ start

theorem verticalLine_paints (found : start.panes.get? window = some pane)
    (placed : pane.OnScreen) (col : pane.cursor.col.toNat < pane.size.cols.toNat)
    (wide : 1 ≤ Text.width character) (length : Coordinate) :
    Painted start (perform (.verticalLine window character length) start) id
      (lineCells pane (lengthDown pane length) (Text.width character) character) := by
  apply painted_in_rendition (depicts_verticalRun placed col wide length)
  rw [answer, sends_found_pane found]
  exact sends_drawing _ _ start

/-! ## Where lines stay -/

theorem panes_of_writes {call : Call} (writes : Writes call = true) (start : Screen) :
    (perform call start).terminal.panes = start.panes := by
  apply perform_rule (motive := fun reply => reply.terminal.panes = start.panes)
  apply (Leaves.answer_writing prints_output writes start).mono
  · intro _ _ prints
    rcases prints with ⟨output, rfl⟩
    rfl
  · intro _ _ prints
    rcases prints with ⟨output, rfl⟩
    rfl

theorem holds_horizontal_iff (inside : pane.Inside) (tall : 1 ≤ pane.size.rows.toNat)
    (width : Nat) (character : Char) :
    pane.Holds (lineCells pane 1 width character) ↔
      width ≤ pane.size.cols.toNat - pane.cursor.col.toNat := by
  have row := inside.row
  rw [lineCells, Pane.holds_box_iff]
  omega

theorem holds_vertical_iff (inside : pane.Inside) (tall : 1 ≤ pane.size.rows.toNat)
    (wide : 1 ≤ Text.width character) (length : Coordinate) :
    pane.Holds (lineCells pane (lengthDown pane length) (Text.width character) character) ↔
      length.toNat = 0 ∨
        pane.cursor.col.toNat + Text.width character ≤ pane.size.cols.toNat := by
  have row := inside.row
  rw [lineCells, Pane.holds_box_iff, lengthDown]
  omega

/-- A line changes no window and fills the cells behind or below the cursor, as many as its
characters need. They are cells of its window exactly if there is room for so many columns: for all
of the line to the right, for one character of the line down. Characters of one column always have
that room. -/
theorem lines_fill_what_they_need (found : start.panes.get? window = some pane)
    (placed : pane.OnScreen) (inside : pane.Inside) (tall : 1 ≤ pane.size.rows.toNat)
    (wide : 2 ≤ pane.size.cols.toNat) (printable : 1 ≤ Text.width character)
    (length : Coordinate) :
    let right := lineCells pane 1 (lengthRight pane length * Text.width character) character
    let down := lineCells pane (lengthDown pane length) (Text.width character) character
    let rightward := perform (.horizontalLine window character length) start
    let downward := perform (.verticalLine window character length) start
    Painted start rightward id right ∧ Painted start downward id down ∧
      rightward.terminal.panes = start.panes ∧ downward.terminal.panes = start.panes ∧
      (pane.Holds right ↔ lengthRight pane length * Text.width character ≤
        pane.size.cols.toNat - pane.cursor.col.toNat) ∧
      (pane.Holds down ↔ length.toNat = 0 ∨
        pane.cursor.col.toNat + Text.width character ≤ pane.size.cols.toNat) ∧
      (Text.width character = 1 → pane.Holds right ∧ pane.Holds down) := by
  intro right down rightward downward
  have row : pane.cursor.row.toNat < pane.size.rows.toNat :=
    Nat.lt_of_le_sub_one tall inside.row
  have col : pane.cursor.col.toNat < pane.size.cols.toNat :=
    Nat.lt_of_le_sub_one (Nat.le_of_succ_le wide) inside.col
  have holdsRight := holds_horizontal_iff inside tall
    (lengthRight pane length * Text.width character) character
  have holdsDown := holds_vertical_iff inside tall printable length
  refine ⟨horizontalLine_paints found placed row col printable length,
    verticalLine_paints found placed col printable length, panes_of_writes rfl start,
    panes_of_writes rfl start, holdsRight, holdsDown, ?_⟩
  intro single
  constructor
  · apply holdsRight.mpr
    rw [single, Nat.mul_one, lengthRight]
    exact Nat.min_le_right _ _
  · apply holdsDown.mpr
    omega

/-- Two signs of two columns each fill the four columns behind the cursor. -/
theorem wide_line_fills_window :
    let pane : Pane := { origin := ⟨2, 3⟩, size := ⟨2, 5⟩, cursor := ⟨0, 1⟩ }
    let screen : Screen :=
      { device := {}, size := ⟨8, 8⟩, panes := (Panes.ofScreen ⟨8, 8⟩).add pane }
    Painted screen (perform (.horizontalLine 1 '日' 2) screen) id (lineCells pane 1 4 '日') ∧
      pane.Holds (lineCells pane 1 4 '日') := by
  intro pane screen
  have found : screen.panes.get? 1 = some pane := rfl
  have width : Text.width '日' = 2 := by decide +kernel
  have printable : 1 ≤ Text.width '日' := by decide +kernel
  have filled := lines_fill_what_they_need found ⟨by decide, by decide⟩ ⟨by decide, by decide⟩
    (by decide) (by decide) printable 2
  have length : lengthRight pane 2 = 2 := by decide
  simp only [width, length] at filled
  exact ⟨filled.1, filled.2.2.2.2.1.mpr (by decide)⟩

/-- In a window of two columns a line of two signs with two columns each goes on behind the window,
and in its second column even a line down with a single sign does. -/
theorem wide_lines_leave_window :
    let pane : Pane := { origin := .origin, size := ⟨1, 2⟩ }
    let screen : Screen := { size := ⟨1, 2⟩, panes := .ofScreen ⟨1, 2⟩, device := {} }
    let last : Pane := { pane with cursor := ⟨0, 1⟩ }
    let moved : Screen := { screen with panes := screen.panes.set 0 last }
    let shown (screen : Screen) := (({} : Display).feed screen.device.output.text.toList).cells
    screen.panes.get? 0 = some pane ∧ moved.panes.get? 0 = some last ∧
      pane.OnScreen ∧ pane.Inside ∧ last.Inside ∧ Text.width '日' = 2 ∧
      shown (perform (.horizontalLine 0 '日' 2) screen).terminal 0 3 = some '日' ∧
      ¬ pane.Covers 0 3 ∧
      shown (perform (.verticalLine 0 '日' 1) moved).terminal 0 2 = some '日' ∧
      ¬ pane.Covers 0 2 := by
  intro pane screen last moved shown
  have width : Text.width '日' = 2 := by decide +kernel
  refine ⟨rfl, rfl, ⟨by decide, by decide⟩, ⟨by decide, by decide⟩, ⟨by decide, by decide⟩, width,
    ?_, by decide, ?_, by decide⟩
  · decide +kernel
  · decide +kernel

end Screen

end TerminalSession
