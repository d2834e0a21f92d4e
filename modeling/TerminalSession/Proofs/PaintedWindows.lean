import TerminalSession.Proofs.Pictures

/-! # Blanks and borders are painted exactly where they belong

To erase a window makes all of its cells blank, and to draw a border fills the cells along its
edges. Neither touches any other cell. -/

namespace TerminalSession

namespace Screen

variable {pane : Pane}

/-! ## Blanks

To clear the full screen starts with all cells of the display. -/

theorem width_blank : Text.width ' ' = 1 := by decide +kernel

def blankCells (pane : Pane) : Cells :=
  .box pane.origin.row.toNat pane.origin.col.toNat pane.size.rows.toNat pane.size.cols.toNat ' '

theorem depicts_blankRows (placed : pane.OnScreen) :
    Depicts id (blankRows pane) (blankCells pane) := by
  apply Depicts.rows
  intro row bound
  have legible : Legible (Text.replicate pane.size.cols.toNat ' ').toList := by
    rw [toList_replicate]
    exact legible_replicate (Nat.le_of_eq width_blank.symm) _
  by_cases wide : 0 < pane.size.cols.toNat
  · have index : (Coordinate.clip row).toNat = row := Coordinate.toNat_clip_of_lt bound
    have drawn := depicts_printAt placed ⟨.clip row, 0⟩ (index.symm ▸ bound) wide legible
    rwa [index, toList_replicate, Line.ofText_replicate, width_blank, Nat.mul_one] at drawn
  · -- without columns there is nothing to print, wherever the cursor goes for it
    have none : pane.size.cols.toNat = 0 := Nat.eq_zero_of_not_pos wide
    have drawn := Depicts.printAt pane ⟨.clip row, 0⟩ legible
    rw [toList_replicate, none, List.replicate_zero, Line.ofText, Cells.band_empty] at drawn
    rwa [none, Line.span_zero, Cells.band_empty]

variable {start : Screen} {window : Handle}

theorem sends_blank (found : start.panes.get? window = some pane) :
    Sends (renditionInstructions start.pairs { pane.rendition with style := .plain } ++
      blankRows pane) (blank window) start := by
  rw [blank, sends_found_pane found, ← bind_assoc, Sends, ends_bind]
  exact sends_drawing _ _ start

theorem erase_paints (found : start.panes.get? window = some pane) (placed : pane.OnScreen) :
    Painted start (perform (.erase window) start) id (blankCells pane) :=
  painted_in_rendition (depicts_blankRows placed) (sends_blank found)

def clearedGround (window : Handle) : Cells → Cells :=
  if window = 0 then fun _ => .empty else id

theorem clear_paints (found : start.panes.get? window = some pane) (placed : pane.OnScreen) :
    Painted start (perform (.clear window) start) (clearedGround window) (blankCells pane) := by
  by_cases full : window = 0
  · have cleared := Depicts.clearAll.append
      ((Depicts.rendition start.pairs { pane.rendition with style := .plain }).append
        (depicts_blankRows placed))
    rw [Cells.overlay_empty, Cells.overlay_empty] at cleared
    rw [clearedGround, if_pos full]
    apply painted_of_sends cleared
    simp only [answer, full, if_true]
    apply sends_write_bind
    intro output
    subst full
    exact sends_blank found
  · have same : answer (.clear window) = blank window := by
      simp only [answer, full, if_false]
    rw [clearedGround, if_neg full]
    apply painted_in_rendition (depicts_blankRows placed)
    rw [same]
    exact sends_blank found

/-! ## Borders

A border is a line along the first row and along the last, and a glyph at both ends of each row
between them. Two rows and two columns are enough for one. -/

namespace Line

def across (left right : Nat) (first middle last : Char) : Line := fun col =>
  if col = left then some first
  else if col = right then some last
  else if left < col ∧ col < right then some middle
  else none

def ends (left right : Nat) (first last : Char) : Line := fun col =>
  if col = left then some first
  else if col = right then some last
  else none

theorem span_overlay_span {left further : Nat} (wide : 1 ≤ further) (first last : Char) :
    (span (left + further) 1 last).overlay (span left 1 first) =
      ends left (left + further) first last := by
  funext col
  simp only [overlay, span, ends]
  grind

theorem spans_eq_across (left between : Nat) (first middle last : Char) :
    ((span (left + 1 + between) 1 last).overlay (span (left + 1) between middle)).overlay
        (span left 1 first) =
      across left (left + 1 + between) first middle last := by
  funext col
  simp only [overlay, span, across]
  grind

end Line

/-- What a border shows: a line along the first row and along the last, and a glyph at both ends of
each row between them. -/
def borderCells (pane : Pane) (glyphs : BorderGlyphs) : Cells := fun row =>
  let top := pane.origin.row.toNat
  let bottom := top + (pane.size.rows.toNat - 1)
  let left := pane.origin.col.toNat
  let right := left + (pane.size.cols.toNat - 1)
  if row = top then .across left right glyphs.topLeft glyphs.top glyphs.topRight
  else if row = bottom then .across left right glyphs.bottomLeft glyphs.bottom glyphs.bottomRight
  else if top < row ∧ row < bottom then .ends left right glyphs.left glyphs.right
  else .empty

theorem toList_edge (pane : Pane) (left middle right : Char) :
    (edge pane left middle right).toList =
      left :: (List.replicate (pane.size.cols.toNat - 2) middle ++ [right]) := by
  simp [edge, toList_replicate]

theorem ofText_edge {col : Nat} {left middle right : Char} (wide : 2 ≤ pane.size.cols.toNat)
    (single : ∀ glyph ∈ [left, middle, right], Text.width glyph = 1) :
    Line.ofText col (edge pane left middle right).toList =
      .across col (col + (pane.size.cols.toNat - 1)) left middle right := by
  simp only [List.forall_mem_cons] at single
  rcases single with ⟨singleLeft, singleMiddle, singleRight, _⟩
  have last : col + (pane.size.cols.toNat - 1) = col + 1 + (pane.size.cols.toNat - 2) := by omega
  rw [toList_edge, Line.ofText, Line.ofText_append, Line.ofText_replicate, Line.ofText_singleton,
    columns_replicate, singleLeft, singleMiddle, singleRight, Nat.mul_one, last]
  exact Line.spans_eq_across _ _ _ _ _

theorem legible_of_single {text : List Char} (single : ∀ glyph ∈ text, Text.width glyph = 1) :
    Legible text := fun glyph member => Nat.le_of_eq (single glyph member).symm

theorem legible_edge (pane : Pane) {left middle right : Char}
    (single : ∀ glyph ∈ [left, middle, right], Text.width glyph = 1) :
    Legible (edge pane left middle right).toList := by
  apply legible_of_single
  intro glyph member
  apply single
  rw [toList_edge] at member
  rcases List.mem_cons.mp member with first | later
  · simp [first]
  · rcases List.mem_append.mp later with between | last
    · simp [List.eq_of_mem_replicate between]
    · simp [List.mem_singleton.mp last]

section

variable {row : Coordinate} {left middle right : Char}

theorem depicts_edge (placed : pane.OnScreen) (above : row.toNat < pane.size.rows.toNat)
    (wide : 2 ≤ pane.size.cols.toNat)
    (single : ∀ glyph ∈ [left, middle, right], Text.width glyph = 1) :
    Depicts id (printAt pane ⟨row, 0⟩ (edge pane left middle right))
      (.band (pane.origin.row.toNat + row.toNat) 1
        (.across pane.origin.col.toNat (pane.origin.col.toNat + (pane.size.cols.toNat - 1))
          left middle right)) := by
  have drawn := depicts_printAt placed ⟨row, 0⟩ above (Nat.lt_of_lt_of_le Nat.zero_lt_two wide)
    (legible_edge pane single)
  rwa [ofText_edge wide single] at drawn

theorem depicts_ends (placed : pane.OnScreen) (above : row.toNat < pane.size.rows.toNat)
    (wide : 2 ≤ pane.size.cols.toNat) (single : ∀ glyph ∈ [left, right], Text.width glyph = 1) :
    Depicts id (printAt pane ⟨row, 0⟩ left.toString ++
        printAt pane ⟨row, pane.size.cols.last⟩ right.toString)
      (.band (pane.origin.row.toNat + row.toNat) 1
        (.ends pane.origin.col.toNat (pane.origin.col.toNat + (pane.size.cols.toNat - 1))
          left right)) := by
  simp only [List.forall_mem_cons] at single
  rcases single with ⟨singleLeft, singleRight, _⟩
  have some : 0 < pane.size.cols.toNat := Nat.lt_of_lt_of_le Nat.zero_lt_two wide
  have last : pane.size.cols.last.toNat < pane.size.cols.toNat := by
    rw [Coordinate.toNat_last]
    exact Nat.sub_one_lt_of_lt some
  have first := depicts_character placed ⟨row, 0⟩ above some (Nat.le_of_eq singleLeft.symm)
  have both := first.append (depicts_character placed ⟨row, pane.size.cols.last⟩ above last
    (Nat.le_of_eq singleRight.symm))
  rw [singleLeft, singleRight, Coordinate.toNat_last, UInt16.toNat_zero, Nat.add_zero, Cells.box,
    Cells.box, Cells.band_overlay, Line.span_overlay_span (Nat.le_sub_of_add_le wide)] at both
  exact both

theorem depicts_sides (placed : pane.OnScreen) (wide : 2 ≤ pane.size.cols.toNat)
    (single : ∀ glyph ∈ [left, right], Text.width glyph = 1) :
    Depicts id ((List.range (pane.size.rows.toNat - 2)).flatMap fun row =>
        printAt pane ⟨.clip (row + 1), 0⟩ left.toString ++
          printAt pane ⟨.clip (row + 1), pane.size.cols.last⟩ right.toString)
      (.band (pane.origin.row.toNat + 1) (pane.size.rows.toNat - 2)
        (.ends pane.origin.col.toNat (pane.origin.col.toNat + (pane.size.cols.toNat - 1))
          left right)) := by
  apply Depicts.rows
  intro row bound
  have within : row + 1 < pane.size.rows.toNat := by omega
  have index : (Coordinate.clip (row + 1)).toNat = row + 1 := Coordinate.toNat_clip_of_lt within
  have above : (Coordinate.clip (row + 1)).toNat < pane.size.rows.toNat := index.symm ▸ within
  have further : pane.origin.row.toNat + (row + 1) = pane.origin.row.toNat + 1 + row := by omega
  have drawn := depicts_ends placed above wide single
  rwa [index, further] at drawn

end

theorem borderCells_eq (pane : Pane) (glyphs : BorderGlyphs) (tall : 2 ≤ pane.size.rows.toNat) :
    let top := pane.origin.row.toNat
    let left := pane.origin.col.toNat
    let right := left + (pane.size.cols.toNat - 1)
    borderCells pane glyphs =
      (Cells.band (top + (pane.size.rows.toNat - 1)) 1
        (.across left right glyphs.bottomLeft glyphs.bottom glyphs.bottomRight)).overlay
      ((Cells.band (top + 1) (pane.size.rows.toNat - 2)
        (.ends left right glyphs.left glyphs.right)).overlay
      (.band top 1 (.across left right glyphs.topLeft glyphs.top glyphs.topRight))) := by
  intro top left right
  funext row
  rw [Cells.overlay, Cells.overlay]
  by_cases first : row = top
  · rw [Cells.band_outside (by omega), Cells.band_outside (by omega), Cells.band_inside (by omega),
      Line.empty_overlay, Line.empty_overlay]
    exact if_pos first
  · have notFirst : ¬(top ≤ row ∧ row < top + 1) := by omega
    rw [Cells.band_outside notFirst, Line.overlay_empty]
    refine (if_neg first).trans ?_
    by_cases last : row = top + (pane.size.rows.toNat - 1)
    · rw [Cells.band_inside (by omega), Cells.band_outside (by omega), Line.overlay_empty]
      exact if_pos last
    · rw [Cells.band_outside (by omega), Line.empty_overlay]
      exact (if_neg last).trans (if_congr (by omega) rfl rfl)

theorem depicts_borderRows {glyphs : BorderGlyphs} (placed : pane.OnScreen)
    (tall : 2 ≤ pane.size.rows.toNat) (wide : 2 ≤ pane.size.cols.toNat)
    (single : ∀ glyph ∈ glyphs.toList, Text.width glyph = 1) :
    Depicts id (borderRows pane glyphs) (borderCells pane glyphs) := by
  simp only [BorderGlyphs.toList, List.forall_mem_cons] at single
  rcases single with ⟨left, right, top, bottom, topLeft, topRight, bottomLeft, bottomRight, _⟩
  have upper : ∀ glyph ∈ [glyphs.topLeft, glyphs.top, glyphs.topRight], Text.width glyph = 1 := by
    simp [topLeft, top, topRight]
  have sides : ∀ glyph ∈ [glyphs.left, glyphs.right], Text.width glyph = 1 := by
    simp [left, right]
  have lower : ∀ glyph ∈ [glyphs.bottomLeft, glyphs.bottom, glyphs.bottomRight],
      Text.width glyph = 1 := by
    simp [bottomLeft, bottom, bottomRight]
  have first : (0 : Coordinate).toNat < pane.size.rows.toNat :=
    Nat.lt_of_lt_of_le Nat.zero_lt_two tall
  have last : pane.size.rows.last.toNat < pane.size.rows.toNat := by
    rw [Coordinate.toNat_last]
    exact Nat.sub_one_lt_of_lt first
  have upperPart := (depicts_edge placed first wide upper).append (depicts_sides placed wide sides)
  have all := upperPart.append (depicts_edge placed last wide lower)
  rw [Coordinate.toNat_last, UInt16.toNat_zero, Nat.add_zero pane.origin.row.toNat,
    ← borderCells_eq pane glyphs tall] at all
  exact all

theorem drawBorder_paints (found : start.panes.get? window = some pane) (placed : pane.OnScreen)
    (tall : 2 ≤ pane.size.rows.toNat) (wide : 2 ≤ pane.size.cols.toNat) {border : ResolvedBorder}
    (single : ∀ glyph ∈ border.glyphs.toList, Text.width glyph = 1) :
    Painted start (perform (.drawBorder window border) start) id
      (borderCells pane border.glyphs) := by
  have large : (2 ≤ pane.size.rows && 2 ≤ pane.size.cols) = true := by
    rw [Bool.and_eq_true, decide_eq_true_eq, decide_eq_true_eq, UInt16.le_iff_toNat_le,
      UInt16.le_iff_toNat_le]
    exact ⟨tall, wide⟩
  apply painted_in_rendition (depicts_borderRows placed tall wide single)
  rw [answer, sends_found_pane found, if_pos large]
  exact sends_drawing _ _ start

theorem drawBorder_of_small (found : start.panes.get? window = some pane)
    (small : pane.size.rows.toNat < 2 ∨ pane.size.cols.toNat < 2) (border : ResolvedBorder) :
    perform (.drawBorder window border) start = ⟨.ok (), start, []⟩ := by
  have few : ¬(2 ≤ pane.size.rows && 2 ≤ pane.size.cols) = true := by
    rw [Bool.and_eq_true, decide_eq_true_eq, decide_eq_true_eq, UInt16.le_iff_toNat_le,
      UInt16.le_iff_toNat_le]
    intro large
    have tall : 2 ≤ pane.size.rows.toNat := large.1
    have wide : 2 ≤ pane.size.cols.toNat := large.2
    omega
  apply @perform_rule (.drawBorder window border) start fun reply => reply = ⟨.ok (), start, []⟩
  rw [answer, ends_found_pane found, if_neg few]
  exact rfl

/-- A window that is erased shows blanks in its cells, and so does one that is cleared. A border
fills the cells along the edges of its window, if it has an edge on every side, and is not drawn
otherwise. What other cells show is left alone, except that clearing the full screen leaves nothing
of it. -/
theorem windows_are_painted_exactly (found : start.panes.get? window = some pane)
    (placed : pane.OnScreen) :
    Painted start (perform (.erase window) start) id (blankCells pane) ∧
      Painted start (perform (.clear window) start) (clearedGround window) (blankCells pane) ∧
      ∀ border : ResolvedBorder,
        (2 ≤ pane.size.rows.toNat → 2 ≤ pane.size.cols.toNat →
          (∀ glyph ∈ border.glyphs.toList, Text.width glyph = 1) →
            Painted start (perform (.drawBorder window border) start) id
              (borderCells pane border.glyphs)) ∧
        (pane.size.rows.toNat < 2 ∨ pane.size.cols.toNat < 2 →
          perform (.drawBorder window border) start = ⟨.ok (), start, []⟩) := by
  refine ⟨erase_paints found placed, clear_paints found placed, fun border => ⟨?_, ?_⟩⟩
  · intro tall wide single
    exact drawBorder_paints found placed tall wide single
  · intro small
    exact drawBorder_of_small found small border

/-- A window of two rows and three columns has no inner row: its border is all of it. -/
theorem smallest_rows_get_border :
    let pane : Pane := { origin := ⟨1, 2⟩, size := ⟨2, 3⟩ }
    let screen : Screen :=
      { device := {}, size := ⟨4, 6⟩, panes := (Panes.ofScreen ⟨4, 6⟩).add pane }
    let border : ResolvedBorder := ⟨.ascii, none⟩
    Painted screen (perform (.drawBorder 1 border) screen) id (borderCells pane .ascii) ∧
      Painted screen (perform (.erase 1) screen) id (blankCells pane) ∧
      (List.range 4).map (fun row => (List.range 6).map (borderCells pane .ascii row)) =
        [[none, none, none, none, none, none],
          [none, none, some '+', some '-', some '+', none],
          [none, none, some '+', some '-', some '+', none],
          [none, none, none, none, none, none]] := by
  intro pane screen border
  have found : screen.panes.get? 1 = some pane := rfl
  have painted := windows_are_painted_exactly found ⟨by decide, by decide⟩
  have all : border.glyphs.toList.all (Text.width · == 1) = true := by decide +kernel
  have single : ∀ glyph ∈ border.glyphs.toList, Text.width glyph = 1 := by simpa using all
  exact ⟨(painted.2.2 border).1 (by decide) (by decide) single, painted.1, by decide⟩

end Screen

end TerminalSession
