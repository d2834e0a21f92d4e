import TerminalSession.Proofs.Pictures

/-! # How a text is laid out in a window

On a page that never ends, a text goes from the left to the right and from one row to the next: a
new line starts a row, and so do a character that does not fit into its row and the end of a full
row. A window shows the same as the page, except that all rows after its last are its last row. -/

namespace TerminalSession.Screen

/-! ## The page

A character that is not wider than the page ends in the row it is in, and none is over an earlier
one. -/

structure Spot where
  row : Nat
  col : Nat
deriving DecidableEq

structure Placed extends Spot where
  character : Char
deriving DecidableEq

namespace Spot

variable {cols : Nat} {spot later last : Spot}

/-- The other cell is in a later row, or in the same row and not before this one. -/
def Reaches (spot later : Spot) : Prop :=
  spot.row < later.row ∨ spot.row = later.row ∧ spot.col ≤ later.col

def right (spot : Spot) (width : Nat) : Spot := { spot with col := spot.col + width }

def below (spot : Spot) : Spot := ⟨spot.row + 1, 0⟩

def fitting (spot : Spot) (cols width : Nat) : Spot :=
  if cols < spot.col + width then spot.below else spot

def behind (spot : Spot) (cols width : Nat) : Spot :=
  if cols ≤ spot.col + width then spot.below else spot.right width

theorem Reaches.row_le (reaches : spot.Reaches later) : spot.row ≤ later.row := by
  unfold Reaches at reaches
  omega

theorem Reaches.refl (spot : Spot) : spot.Reaches spot := .inr ⟨rfl, Nat.le_refl _⟩

theorem Reaches.trans (first : spot.Reaches later) (second : later.Reaches last) :
    spot.Reaches last := by
  unfold Reaches at *
  omega

theorem reaches_below (spot : Spot) : spot.Reaches spot.below := .inl (Nat.lt_succ_self _)

theorem reaches_right (spot : Spot) (width : Nat) : spot.Reaches (spot.right width) :=
  .inr ⟨rfl, Nat.le_add_right _ _⟩

theorem reaches_fitting (spot : Spot) (cols width : Nat) :
    spot.Reaches (spot.fitting cols width) := by
  rw [fitting]
  split
  · exact spot.reaches_below
  · exact .refl spot

theorem right_reaches_behind (spot : Spot) (cols width : Nat) :
    (spot.right width).Reaches (spot.behind cols width) := by
  rw [behind]
  split
  · exact (spot.right width).reaches_below
  · exact .refl _

theorem col_fitting (room : spot.col < cols) (width : Nat) :
    (spot.fitting cols width).col < cols := by
  rw [fitting]
  split
  · exact Nat.zero_lt_of_lt room
  · exact room

theorem col_fitting_add {width : Nat} (fits : width ≤ cols) :
    (spot.fitting cols width).col + width ≤ cols := by
  rw [fitting]
  split
  · simpa only [below, Nat.zero_add] using fits
  · rename_i enough
    exact Nat.le_of_not_lt enough

theorem col_behind (room : spot.col < cols) (width : Nat) :
    (spot.behind cols width).col < cols := by
  rw [behind]
  split
  · exact Nat.zero_lt_of_lt room
  · rename_i free
    exact Nat.lt_of_not_le free

end Spot

def flow (cols : Nat) (spot : Spot) : List Char → List Placed
  | [] => []
  | character :: rest =>
      if character = '\n' then
        flow cols spot.below rest
      else
        let start := spot.fitting cols (Text.width character)
        ⟨start, character⟩ :: flow cols (start.behind cols (Text.width character)) rest

def Placed.Before (earlier later : Placed) : Prop :=
  (earlier.right (Text.width earlier.character)).Reaches later.toSpot

section

variable {cols : Nat} {spot : Spot}

theorem flow_line (cols : Nat) (spot : Spot) (rest : List Char) :
    flow cols spot ('\n' :: rest) = flow cols spot.below rest := by
  rw [flow, if_pos rfl]

theorem flow_character {character : Char} (sign : character ≠ '\n') (cols : Nat) (spot : Spot)
    (rest : List Char) :
    flow cols spot (character :: rest) =
      ⟨spot.fitting cols (Text.width character), character⟩ ::
        flow cols ((spot.fitting cols (Text.width character)).behind cols (Text.width character))
          rest := by
  rw [flow, if_neg sign]

theorem characters_flow (cols : Nat) (spot : Spot) (text : List Char) :
    (flow cols spot text).map Placed.character = text.filter (· ≠ '\n') := by
  induction text generalizing spot with
  | nil => rfl
  | cons character rest induction =>
      by_cases line : character = '\n'
      · rw [line, flow_line, induction]
        rfl
      · rw [flow_character line, List.map_cons, induction, List.filter_cons_of_pos]
        exact decide_eq_true line

theorem flow_fits (room : spot.col < cols) {text : List Char}
    (fits : ∀ character ∈ text, Text.width character ≤ cols) :
    ∀ placed ∈ flow cols spot text,
      placed.col < cols ∧ placed.col + Text.width placed.character ≤ cols := by
  induction text generalizing spot with
  | nil => exact List.forall_mem_nil _
  | cons character rest induction =>
      rw [List.forall_mem_cons] at fits
      by_cases line : character = '\n'
      · rw [line, flow_line]
        exact induction (Nat.zero_lt_of_lt room) fits.2
      · have start := Spot.col_fitting room (Text.width character)
        rw [flow_character line, List.forall_mem_cons]
        constructor
        · exact ⟨start, Spot.col_fitting_add fits.1⟩
        · exact induction (Spot.col_behind start (Text.width character)) fits.2

theorem flow_reaches (cols : Nat) (spot : Spot) (text : List Char) :
    ∀ placed ∈ flow cols spot text, spot.Reaches placed.toSpot := by
  induction text generalizing spot with
  | nil => exact List.forall_mem_nil _
  | cons character rest induction =>
      by_cases line : character = '\n'
      · intro placed member
        rw [line, flow_line] at member
        exact spot.reaches_below.trans (induction _ placed member)
      · have start := spot.reaches_fitting cols (Text.width character)
        rw [flow_character line, List.forall_mem_cons]
        constructor
        · exact start
        · intro placed member
          exact start.trans ((Spot.reaches_right _ _).trans
            ((Spot.right_reaches_behind _ _ _).trans (induction _ placed member)))

theorem flow_pairwise (cols : Nat) (spot : Spot) (text : List Char) :
    (flow cols spot text).Pairwise Placed.Before := by
  induction text generalizing spot with
  | nil => exact .nil
  | cons character rest induction =>
      by_cases line : character = '\n'
      · rw [line, flow_line]
        exact induction _
      · rw [flow_character line]
        apply List.Pairwise.cons
        · intro later member
          exact (Spot.right_reaches_behind _ _ _).trans (flow_reaches _ _ rest later member)
        · exact induction _

end

/-! ## The window

What the page has in the first rows is settled: the window shows it in the same places. Where the
columns of the window and those of a character can be counted together, so can the columns up to the
end of the character. -/

def settled (rows : Nat) (page : List Placed) : List Placed :=
  page.takeWhile fun placed => placed.row < rows

namespace Placed

def within (rows : Nat) (placed : Placed) : Placed :=
  { placed with row := min placed.row (rows - 1) }

def instructions (pane : Pane) (placed : Placed) : List Instruction :=
  printAt pane ⟨.clip placed.row, .clip placed.col⟩ placed.character.toString

end Placed

theorem within_of_lt {rows : Nat} {placed : Placed} (bound : placed.row < rows) :
    placed.within rows = id placed := by
  have same : min placed.row (rows - 1) = placed.row := by omega
  rw [Placed.within, same]
  rfl

theorem row_lt_of_mem_settled {rows : Nat} {page : List Placed} {placed : Placed}
    (member : placed ∈ settled rows page) : placed.row < rows := by
  have all := List.all_eq_true.mp (List.all_takeWhile (l := page)) placed member
  exact of_decide_eq_true all

theorem le_row_of_mem_dropWhile {page : List Placed} (ordered : page.Pairwise Placed.Before)
    (rows : Nat) :
    ∀ placed ∈ page.dropWhile fun placed => placed.row < rows, rows ≤ placed.row := by
  induction ordered with
  | nil => exact List.forall_mem_nil _
  | @cons first rest before _ induction =>
      rw [List.dropWhile_cons]
      split
      · exact induction
      · rename_i after
        have last : rows ≤ first.row := by simpa using after
        rw [List.forall_mem_cons]
        constructor
        · exact last
        · intro placed member
          have onward : first.row ≤ placed.row := (before placed member).row_le
          exact Nat.le_trans last onward

/-- In a window the characters that are not settled are all in the last row. -/
theorem map_within_eq {page : List Placed} (ordered : page.Pairwise Placed.Before) (rows : Nat) :
    ∃ crowded, page.map (.within rows) = settled rows page ++ crowded ∧
      ∀ placed ∈ crowded, placed.row = rows - 1 := by
  refine ⟨(page.dropWhile fun placed => placed.row < rows).map (.within rows), ?_, ?_⟩
  · have same : (settled rows page).map (.within rows) = settled rows page := by
      rw [List.map_congr_left fun placed member => within_of_lt (row_lt_of_mem_settled member)]
      exact List.map_id _
    rw [← same, ← List.map_append]
    exact congrArg _ List.takeWhile_append_dropWhile.symm
  · intro placed member
    rcases List.mem_map.mp member with ⟨origin, after, rfl⟩
    have last := le_row_of_mem_dropWhile ordered rows origin after
    simp only [Placed.within]
    omega

theorem exists_position {pane : Pane} (placed : pane.OnScreen) {sign : Placed}
    (row : sign.row < pane.size.rows.toNat) (col : sign.col < pane.size.cols.toNat) :
    ∃ position, sign.instructions pane = [.moveTo position, .print sign.character.toString] ∧
      position.row.toNat = pane.origin.row.toNat + sign.row ∧
      position.col.toNat = pane.origin.col.toNat + sign.col := by
  have rowIndex := Coordinate.toNat_clip_of_lt row
  have colIndex := Coordinate.toNat_clip_of_lt col
  refine ⟨pane.toScreen ⟨.clip sign.row, .clip sign.col⟩, rfl, ?_, ?_⟩
  · rw [placed.toScreen_row (rowIndex.symm ▸ row), rowIndex]
  · rw [placed.toScreen_col (colIndex.symm ▸ col), colIndex]

structure Follows (pane : Pane) (spot : Spot) : Prop where
  row : pane.cursor.row.toNat = min spot.row (pane.size.rows.toNat - 1)
  col : pane.cursor.col.toNat = spot.col
  room : spot.col < pane.size.cols.toNat

def startOf (pane : Pane) (width : Nat) : Position :=
  if pane.size.cols < pane.cursor.col.ahead width then pane.lineBelow pane.cursor.row
  else pane.cursor

def nextOf (pane : Pane) (start : Position) (width : Nat) : Position :=
  let col := start.col.ahead width
  if pane.size.cols ≤ col then pane.lineBelow start.row else { start with col }

theorem putCharacter_line (pane : Pane) :
    putCharacter pane '\n' = ([], { pane with cursor := pane.lineBelow pane.cursor.row }) := rfl

theorem putCharacter_sign {character : Char} (sign : character ≠ '\n') (pane : Pane) :
    putCharacter pane character =
      (printAt pane (startOf pane (Text.width character)) character.toString,
        { pane with
          cursor :=
            nextOf pane (startOf pane (Text.width character)) (Text.width character) }) := by
  rw [putCharacter, place, if_neg sign]
  rfl

section

variable {pane : Pane} {spot : Spot}

theorem follows_lineBelow {position : Position}
    (follows : Follows { pane with cursor := position } spot) :
    Follows { pane with cursor := pane.lineBelow position.row } spot.below where
  row := by
    have row : position.row.toNat = min spot.row (pane.size.rows.toNat - 1) := follows.row
    have bound := pane.size.rows.toNat_lt
    have next : (position.row.ahead 1).toNat = position.row.toNat + 1 :=
      Coordinate.toNat_ahead _ (by rw [Coordinate.limit]; omega)
    simp only [Pane.lineBelow, Spot.below, Coordinate.toNat_least, Coordinate.toNat_last, next]
    omega
  col := rfl
  room := Nat.zero_lt_of_lt follows.room

theorem toNat_ahead_of_follows {position : Position}
    (follows : Follows { pane with cursor := position } spot) {width : Nat}
    (counted : pane.size.cols.toNat + width ≤ Coordinate.limit + 1) :
    (position.col.ahead width).toNat = spot.col + width := by
  have col : position.col.toNat = spot.col := follows.col
  have room : spot.col < pane.size.cols.toNat := follows.room
  rw [Coordinate.toNat_ahead _ (by omega), col]

theorem follows_startOf (follows : Follows pane spot) {width : Nat}
    (counted : pane.size.cols.toNat + width ≤ Coordinate.limit + 1) :
    Follows { pane with cursor := startOf pane width }
      (spot.fitting pane.size.cols.toNat width) := by
  rw [startOf, Spot.fitting]
  simp only [UInt16.lt_iff_toNat_lt, toNat_ahead_of_follows follows counted]
  split
  · exact follows_lineBelow follows
  · exact follows

theorem follows_nextOf {start : Position} (follows : Follows { pane with cursor := start } spot)
    {width : Nat} (counted : pane.size.cols.toNat + width ≤ Coordinate.limit + 1) :
    Follows { pane with cursor := nextOf pane start width }
      (spot.behind pane.size.cols.toNat width) := by
  have index := toNat_ahead_of_follows follows counted
  rw [Spot.behind, nextOf]
  simp only [UInt16.le_iff_toNat_le, index]
  split
  · exact follows_lineBelow follows
  · rename_i free
    exact ⟨follows.row, index, Nat.lt_of_not_le free⟩

theorem instructions_of_follows {position : Position}
    (follows : Follows { pane with cursor := position } spot) (character : Char) :
    Placed.instructions pane (.within pane.size.rows.toNat ⟨spot, character⟩) =
      printAt pane position character.toString := by
  have row : position.row.toNat = min spot.row (pane.size.rows.toNat - 1) := follows.row
  have col : position.col.toNat = spot.col := follows.col
  simp only [Placed.instructions, Placed.within, ← row, ← col, Coordinate.clip_toNat]

end

def layout (pane : Pane) : List Char → List Instruction × Pane
  | [] => ([], pane)
  | character :: rest =>
      let (instructions, after) := putCharacter pane character
      let (more, last) := layout after rest
      (instructions ++ more, last)

theorem layout_cons (pane : Pane) (character : Char) (rest : List Char) :
    layout pane (character :: rest) =
      ((putCharacter pane character).1 ++ (layout (putCharacter pane character).2 rest).1,
        (layout (putCharacter pane character).2 rest).2) := rfl

def Moved (pane other : Pane) : Prop :=
  ∃ cursor, other = { pane with cursor } ∧ Pane.Inside { pane with cursor }

theorem moved_self {pane : Pane} (inside : pane.Inside) : Moved pane pane :=
  ⟨pane.cursor, rfl, inside⟩

theorem moved_putCharacter {pane current : Pane} (moved : Moved pane current) (character : Char) :
    Moved pane (putCharacter current character).2 := by
  rcases moved with ⟨cursor, same, inside⟩
  subst same
  exact ⟨_, rfl, inside_place inside character⟩

theorem moved_layout {pane current : Pane} (moved : Moved pane current) (text : List Char) :
    Moved pane (layout current text).2 := by
  induction text generalizing current with
  | nil => exact moved
  | cons character rest induction => exact induction (moved_putCharacter moved character)

/-- The window shows what is on the page. -/
theorem layout_eq_flow {pane : Pane} {spot : Spot} (follows : Follows pane spot)
    {text : List Char} (counted : ∀ character ∈ text,
      pane.size.cols.toNat + Text.width character ≤ Coordinate.limit + 1) :
    (layout pane text).1 =
      ((flow pane.size.cols.toNat spot text).map (.within pane.size.rows.toNat)).flatMap
        (Placed.instructions pane) := by
  induction text generalizing pane spot with
  | nil => rfl
  | cons character rest induction =>
      rw [List.forall_mem_cons] at counted
      by_cases line : character = '\n'
      · rw [line, flow_line, layout_cons, putCharacter_line]
        exact induction (follows_lineBelow follows) counted.2
      · have start := follows_startOf follows counted.1
        have next := follows_nextOf start counted.1
        rw [flow_character line, layout_cons, putCharacter_sign line, List.map_cons,
          List.flatMap_cons, instructions_of_follows start character, induction next counted.2]
        rfl

/-! ## The call

The rendition of the window is chosen before the text is drawn. However far the text gets, the
window is the same but for the cursor. -/

def Lays (window : Handle) (pane : Pane) (instructions : List Instruction) (last : Pane)
    (work : Work Unit) (start : Screen) : Prop :=
  Ends work start
    (fun _ stop => start.device.output.Gains (instructions.map .whole) stop.device.output ∧
      stop.panes.get? window = some last)
    (fun _ stop => start.device.output.room ≠ none ∧
      (∃ gained, BrokenOff instructions gained ∧
        start.device.output.Gains gained stop.device.output) ∧
      ∃ other, stop.panes.get? window = some other ∧ Moved pane other)

section

variable {start : Screen} {window : Handle} {pane current last : Pane}
  {instructions more : List Instruction} {work next : Work Unit}

theorem Lays.bind (first : Lays window pane instructions current work start)
    (second : ∀ screen : Screen, screen.panes.get? window = some current →
      Lays window pane more last next screen) :
    Lays window pane (instructions ++ more) last (do
      work
      next) start := by
  unfold Lays
  rw [ends_bind]
  apply first.mono
  · intro _ screen ⟨gains, there⟩
    apply (second screen there).mono
    · intro _ _ ⟨further, left⟩
      rw [List.map_append]
      exact ⟨gains.trans further, left⟩
    · intro _ _ ⟨limited, ⟨gained, broken, further⟩, left⟩
      exact ⟨limited ∘ gains.room, ⟨_, broken.append_left, gains.trans further⟩, left⟩
  · intro _ _ ⟨limited, ⟨gained, broken, gains⟩, left⟩
    exact ⟨limited, ⟨gained, broken.append_right, gains⟩, left⟩

theorem lays_writeAll (found : start.panes.get? window = some current)
    (moved : Moved pane current) (instructions : List Instruction) :
    Lays window pane instructions current (writeAll instructions) start := by
  apply ends_writeAll
  · intro _ gains
    exact ⟨gains, found⟩
  · intro gained _ broken limited gains
    exact ⟨limited, ⟨gained, broken, gains⟩, current, found, moved⟩

theorem lays_putCell (found : start.panes.get? window = some current)
    (moved : Moved pane current) (character : Char) :
    Lays window pane (putCharacter current character).1 (putCharacter current character).2
      (putCell window character) start := by
  unfold Lays
  rw [putCell, ends_found_pane found, ends_bind]
  apply (lays_writeAll found moved _).mono
  · intro _ screen drawn
    rw [setPane, ends_modify]
    refine ⟨drawn.1, ?_⟩
    rw [Panes.get?_set drawn.2, if_pos rfl]
  · intro _ _ broken
    exact broken

theorem lays_text (found : start.panes.get? window = some current) (moved : Moved pane current)
    (text : List Char) :
    Lays window pane (layout current text).1 (layout current text).2
      (text.forM (putCell window)) start := by
  induction text generalizing start current with
  | nil => exact ⟨.refl _, found⟩
  | cons character rest induction =>
      rw [layout_cons]
      apply (lays_putCell found moved character).bind
      intro screen there
      exact induction there (moved_putCharacter moved character)

theorem lays_putText (found : start.panes.get? window = some pane) (inside : pane.Inside)
    (text : String) :
    Lays window pane
      (renditionInstructions start.pairs pane.rendition ++ (layout pane text.toList).1)
      (layout pane text.toList).2 (answer (.putText window text)) start := by
  have here : Moved pane pane := moved_self inside
  have chosen : Lays window pane (renditionInstructions start.pairs pane.rendition) pane
      (setRendition pane.rendition) start := ends_setRendition.mpr (lays_writeAll found here _)
  unfold Lays
  rw [answer, ends_found_pane found]
  exact chosen.bind fun screen there => lays_text there here text.toList

theorem sends_putText (found : start.panes.get? window = some pane) (inside : pane.Inside)
    (text : String) :
    Sends (renditionInstructions start.pairs pane.rendition ++ (layout pane text.toList).1)
      (answer (.putText window text)) start := by
  apply (lays_putText found inside text).mono
  · intro _ _ drawn
    exact drawn.1
  · intro _ _ ⟨limited, gained, _⟩
    exact ⟨limited, gained⟩

theorem moved_putText (found : start.panes.get? window = some pane) (inside : pane.Inside)
    (text : String) :
    ∃ other, (perform (.putText window text) start).terminal.panes.get? window = some other ∧
      Moved pane other := by
  apply perform_rule (motive := fun reply =>
    ∃ other, reply.terminal.panes.get? window = some other ∧ Moved pane other)
  apply (lays_putText found inside text).mono
  · intro _ _ drawn
    exact ⟨_, drawn.2, moved_layout (moved_self inside) text.toList⟩
  · intro _ _ broken
    exact broken.2.2

/-- A text none of whose characters is wider than its window, or so wide that its columns and those
of the window cannot be counted together, is laid out inside the window. The characters come in
their order, each after a move of the cursor to its place. As long as the page has them in the rows
of the window they are not over each other; after that they are all in the last row. -/
theorem text_is_laid_out {text : String} (found : start.panes.get? window = some pane)
    (placed : pane.OnScreen) (inside : pane.Inside) (tall : 1 ≤ pane.size.rows.toNat)
    (wide : 1 ≤ pane.size.cols.toNat)
    (fits : ∀ character ∈ text.toList, Text.width character ≤ pane.size.cols.toNat)
    (counted : ∀ character ∈ text.toList,
      pane.size.cols.toNat + Text.width character ≤ Coordinate.limit + 1) :
    let rows := pane.size.rows.toNat
    let cols := pane.size.cols.toNat
    let page := flow cols ⟨pane.cursor.row.toNat, pane.cursor.col.toNat⟩ text.toList
    let laid := page.map (.within rows)
    let reply := perform (.putText window text) start
    Delivered (renditionInstructions start.pairs pane.rendition ++
        laid.flatMap (Placed.instructions pane)) start reply ∧
      laid.map Placed.character = text.toList.filter (· ≠ '\n') ∧
      (∀ sign ∈ laid, sign.row < rows ∧ sign.col + Text.width sign.character ≤ cols ∧
        ∃ position, sign.instructions pane = [.moveTo position, .print sign.character.toString] ∧
          position.row.toNat = pane.origin.row.toNat + sign.row ∧
          position.col.toNat = pane.origin.col.toNat + sign.col) ∧
      (settled rows page).Pairwise Placed.Before ∧
      (∃ crowded, laid = settled rows page ++ crowded ∧
        ∀ sign ∈ crowded, sign.row = rows - 1) ∧
      ∃ cursor, reply.terminal.panes.get? window = some { pane with cursor } ∧
        Pane.Inside { pane with cursor } := by
  intro rows cols page laid reply
  have room : pane.cursor.col.toNat < cols := Nat.lt_of_le_sub_one wide inside.col
  have follows : Follows pane ⟨pane.cursor.row.toNat, pane.cursor.col.toNat⟩ :=
    ⟨(Nat.min_eq_left inside.row).symm, rfl, room⟩
  have ordered : page.Pairwise Placed.Before := flow_pairwise _ _ _
  have sends := sends_putText found inside text
  rw [layout_eq_flow follows counted] at sends
  refine ⟨delivered_of_sends sends, ?_, ?_, ordered.sublist (List.takeWhile_sublist _),
    map_within_eq ordered rows, ?_⟩
  · rw [List.map_map]
    exact characters_flow _ _ _
  · intro sign member
    rcases List.mem_map.mp member with ⟨origin, there, rfl⟩
    have bounds := flow_fits room fits origin there
    have row : (origin.within rows).row < rows := by
      simp only [Placed.within]
      omega
    exact ⟨row, bounds.2, exists_position placed row bounds.1⟩
  · rcases moved_putText found inside text with ⟨other, there, cursor, same, within⟩
    exact ⟨cursor, same ▸ there, within⟩

end

/-- In a window of three columns a sign of two columns does not fit after two letters and goes to
the second row, which the next letter fills. What comes then is over that row, as there is no
other. -/
theorem wide_sign_goes_to_next_row :
    let pane : Pane := { origin := ⟨1, 4⟩, size := ⟨2, 3⟩ }
    let screen : Screen :=
      { size := ⟨4, 8⟩, panes := (Panes.ofScreen ⟨4, 8⟩).add pane, device := {} }
    let first : List Placed := [⟨⟨0, 0⟩, 'a'⟩, ⟨⟨0, 1⟩, 'b'⟩, ⟨⟨1, 0⟩, '日'⟩, ⟨⟨1, 2⟩, 'c'⟩]
    let last : Placed := ⟨⟨1, 0⟩, 'd'⟩
    Delivered ([.resetAttributes, .resetColors] ++
        (first ++ [last]).flatMap (Placed.instructions pane)) screen
        (perform (.putText 1 "ab日cd") screen) ∧
      first.Pairwise Placed.Before ∧
      ∃ cursor, (perform (.putText 1 "ab日cd") screen).terminal.panes.get? 1 =
        some { pane with cursor } ∧ Pane.Inside { pane with cursor } := by
  intro pane screen first last
  have found : screen.panes.get? 1 = some pane := rfl
  have all : "ab日cd".toList.all (Text.width · ≤ pane.size.cols.toNat) = true := by decide +kernel
  have fits : ∀ character ∈ "ab日cd".toList, Text.width character ≤ pane.size.cols.toNat :=
    fun character member => of_decide_eq_true (List.all_eq_true.mp all character member)
  have page : flow pane.size.cols.toNat ⟨pane.cursor.row.toNat, pane.cursor.col.toNat⟩
      "ab日cd".toList = first ++ [⟨⟨2, 0⟩, 'd'⟩] := by decide +kernel
  have counted : ∀ character ∈ "ab日cd".toList,
      pane.size.cols.toNat + Text.width character ≤ Coordinate.limit + 1 :=
    fun character member => Nat.le_trans (Nat.add_le_add_left (fits character member) _) (by decide)
  have laid := text_is_laid_out found ⟨by decide, by decide⟩ ⟨by decide, by decide⟩ (by decide)
    (by decide) fits counted
  simp only [page] at laid
  exact ⟨laid.1, laid.2.2.2.1, laid.2.2.2.2.2⟩

/-- Only one character is wider than two columns. In a window of two columns it has no row to fit
into, and reaches out of the one it is in. In a window of 65534 columns it reaches out of the row in
the last column, because the columns up to its end are counted as none. -/
theorem triple_sign_leaves_window :
    let narrow : Pane := { origin := .origin, size := ⟨3, 2⟩ }
    let wide : Pane := { origin := .origin, size := ⟨3, 65534⟩, cursor := ⟨0, 65533⟩ }
    let screen (pane : Pane) : Screen :=
      { size := pane.size, panes := ⟨#[some pane]⟩, device := {} }
    let sent (pane : Pane) : List Written :=
      (perform (.putText 0 "\u17D8") (screen pane)).terminal.device.output.written.reverse
    Text.isControl '\u17D8' = false ∧
      (narrow.OnScreen ∧ narrow.Inside ∧
        sent narrow = [.whole .resetAttributes, .whole .resetColors, .whole (.moveTo ⟨1, 0⟩),
          .whole (.print "\u17D8")] ∧
        ¬ 0 + Text.width '\u17D8' ≤ narrow.size.cols.toNat) ∧
      (wide.OnScreen ∧ wide.Inside ∧
        sent wide = [.whole .resetAttributes, .whole .resetColors, .whole (.moveTo ⟨0, 65533⟩),
          .whole (.print "\u17D8")] ∧
        ¬ 65533 + Text.width '\u17D8' ≤ wide.size.cols.toNat) := by
  intro narrow wide screen sent
  refine ⟨by decide +kernel, ⟨⟨by decide, by decide⟩, ⟨by decide, by decide⟩, ?_, ?_⟩,
    ⟨by decide, by decide⟩, ⟨by decide, by decide⟩, ?_, ?_⟩
  · decide +kernel
  · decide +kernel
  · decide +kernel
  · decide +kernel

end TerminalSession.Screen
