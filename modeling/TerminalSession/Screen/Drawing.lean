import TerminalSession.Pane
import TerminalSession.Screen.Instruction
import TerminalSession.Text.Quoted
import TerminalSession.Text.Width

/-! # What is drawn for a window

Every drawing is a list of instructions that depends on the pane alone. -/

namespace TerminalSession.Screen

def printAt (pane : Pane) (position : Position) (text : String) : List Instruction :=
  [.moveTo (pane.toScreen position), .print text]

/-- Where a character is printed, if it is, and where the cursor is after it. A new line starts a
line and prints nothing. A character that does not fit into the row goes to the next one, and a full
row is followed by the next. -/
def place (pane : Pane) (character : Char) : Option Position × Position :=
  if character = '\n' then
    (none, pane.lineBelow pane.cursor.row)
  else
    let width := Text.width character
    let start :=
      if pane.size.cols < pane.cursor.col.ahead width then
        pane.lineBelow pane.cursor.row
      else
        pane.cursor
    let col := start.col.ahead width
    (some start,
      if pane.size.cols ≤ col then pane.lineBelow start.row else { start with col })

def putCharacter (pane : Pane) (character : Char) : List Instruction × Pane :=
  let (start, cursor) := place pane character
  (match start with
    | some start => printAt pane start character.toString
    | none => [],
    { pane with cursor })

def blankRows (pane : Pane) : List Instruction :=
  (List.range pane.size.rows.toNat).flatMap fun row =>
    printAt pane ⟨.clip row, 0⟩ (Text.replicate pane.size.cols.toNat ' ')

def edge (pane : Pane) (left middle right : Char) : String :=
  left.toString ++ Text.replicate (pane.size.cols.toNat - 2) middle ++ right.toString

/-! A pane that is too small for a border gets none, and a line is as long as the pane has room for
it. -/

def borderRows (pane : Pane) (glyphs : BorderGlyphs) : List Instruction :=
  let lastRow := pane.size.rows.last
  let lastCol := pane.size.cols.last
  printAt pane .origin (edge pane glyphs.topLeft glyphs.top glyphs.topRight) ++
    ((List.range (pane.size.rows.toNat - 2)).flatMap fun row =>
      printAt pane ⟨.clip (row + 1), 0⟩ glyphs.left.toString ++
        printAt pane ⟨.clip (row + 1), lastCol⟩ glyphs.right.toString) ++
    printAt pane ⟨lastRow, 0⟩ (edge pane glyphs.bottomLeft glyphs.bottom glyphs.bottomRight)

def horizontalRun (pane : Pane) (character : Char) (length : Coordinate) : List Instruction :=
  let length := length.least (pane.size.cols.rest pane.cursor.col)
  printAt pane pane.cursor (Text.replicate length.toNat character)

def verticalRun (pane : Pane) (character : Char) (length : Coordinate) : List Instruction :=
  let length := length.least (pane.size.rows.rest pane.cursor.row)
  (List.range length.toNat).flatMap fun step =>
    printAt pane { pane.cursor with row := pane.cursor.row.ahead step }
      character.toString

end TerminalSession.Screen
