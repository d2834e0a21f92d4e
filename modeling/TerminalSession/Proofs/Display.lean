import TerminalSession.Screen.Device
import TerminalSession.Screen.Drawing

/-! # What a display makes of the output

The output of a device is text with control sequences in it. A display reads it character by
character: a sequence may move its cursor or clear it, and every other character is printed at the
cursor, over as many columns as it is wide. A display has no edges here, so what it shows can be
compared with what a window should look like, wherever the window is. -/

namespace TerminalSession.Screen

/-! A line is what the cells of a row show, by their columns. A cell where nothing was printed shows
nothing, and of two pictures the upper one hides what is below it. -/

abbrev Line := Nat → Option Char

abbrev Cells := Nat → Line

namespace Line

def empty : Line := fun _ => none

def overlay (upper lower : Line) : Line := fun col => (upper col).or (lower col)

def span (left width : Nat) (character : Char) : Line := fun col =>
  if left ≤ col ∧ col < left + width then some character else none

@[simp] theorem overlay_empty (line : Line) : line.overlay empty = line := by
  funext col
  exact Option.or_none

@[simp] theorem empty_overlay (line : Line) : empty.overlay line = line := by
  funext col
  exact Option.none_or

theorem overlay_assoc (upper middle lower : Line) :
    (upper.overlay middle).overlay lower = upper.overlay (middle.overlay lower) := by
  funext col
  exact Option.or_assoc

end Line

namespace Cells

def empty : Cells := fun _ => .empty

def overlay (upper lower : Cells) : Cells := fun row => (upper row).overlay (lower row)

def band (top height : Nat) (line : Line) : Cells := fun row =>
  if top ≤ row ∧ row < top + height then line else .empty

def box (top left height width : Nat) (character : Char) : Cells :=
  band top height (.span left width character)

@[simp] theorem overlay_empty (cells : Cells) : cells.overlay empty = cells := by
  funext row
  exact Line.overlay_empty (cells row)

@[simp] theorem empty_overlay (cells : Cells) : empty.overlay cells = cells := by
  funext row
  exact Line.empty_overlay (cells row)

theorem overlay_assoc (upper middle lower : Cells) :
    (upper.overlay middle).overlay lower = upper.overlay (middle.overlay lower) := by
  funext row
  exact Line.overlay_assoc (upper row) (middle row) (lower row)

theorem overlay_eq_none_iff {upper lower : Cells} {row col : Nat} :
    upper.overlay lower row col = none ↔ upper row col = none ∧ lower row col = none :=
  Option.or_eq_none_iff

theorem overlay_of_none {upper : Cells} {row col : Nat} (outside : upper row col = none)
    (lower : Cells) : upper.overlay lower row col = lower row col := by
  rw [overlay, Line.overlay, outside, Option.none_or]

theorem box_eq_none_iff {top left height width row col : Nat} {character : Char} :
    box top left height width character row col = none ↔
      ¬((top ≤ row ∧ row < top + height) ∧ left ≤ col ∧ col < left + width) := by
  by_cases inRows : top ≤ row ∧ row < top + height
  · rw [box, band, if_pos inRows, Line.span, ite_eq_right_iff]
    simp [inRows]
  · rw [box, band, if_neg inRows]
    simp [inRows, Line.empty]

theorem band_inside {top height row : Nat} (inside : top ≤ row ∧ row < top + height)
    (line : Line) : band top height line row = line := if_pos inside

theorem band_outside {top height row : Nat} (outside : ¬(top ≤ row ∧ row < top + height))
    (line : Line) : band top height line row = .empty := if_neg outside

theorem band_empty (top height : Nat) : band top height .empty = empty := by
  funext row
  exact ite_self _

theorem band_zero (top : Nat) (line : Line) : band top 0 line = empty := by
  funext row
  exact if_neg (by omega)

theorem band_succ (top height : Nat) (line : Line) :
    band top (height + 1) line = (band (top + height) 1 line).overlay (band top height line) := by
  funext row
  rw [overlay]
  by_cases last : row = top + height
  · rw [band_inside (by omega), band_inside (by omega), band_outside (by omega),
      Line.overlay_empty]
  · rw [band_outside (by omega : ¬(top + height ≤ row ∧ row < top + height + 1)),
      Line.empty_overlay]
    by_cases before : top ≤ row ∧ row < top + height
    · rw [band_inside (by omega), band_inside before]
    · rw [band_outside (by omega), band_outside before]

theorem band_overlay (top height : Nat) (upper lower : Line) :
    (band top height upper).overlay (band top height lower) =
      band top height (upper.overlay lower) := by
  funext row
  simp only [overlay, band]
  split
  · rfl
  · exact Line.overlay_empty _

end Cells

/-! A display may be after the character that starts a sequence, or inside a sequence after some of
its parameters. -/

inductive Reading where
  | text
  | escape
  | parameters (read : List Char)
deriving DecidableEq

structure Display where
  row : Nat := 0
  col : Nat := 0
  cells : Cells := .empty
  reading : Reading := .text

namespace Display

def print (display : Display) (character : Char) : Display :=
  let width := Text.width character
  { display with
    col := display.col + width
    cells := (Cells.box display.row display.col 1 width character).overlay display.cells }

def escape : Char := Char.ofNat 0x1B

def isParameter (character : Char) : Bool :=
  0x20 ≤ character.toNat && character.toNat < 0x40

def coordinate (digits : List Char) : Nat := Nat.ofDigitChars 10 digits 0 - 1

/-- Carries out the sequence with these parameters and this letter at its end. Colors, graphics and
modes are no matter of cells. -/
def carryOut (display : Display) (parameters : List Char) (final : Char) : Display :=
  if final = 'H' then
    { display with
      row := coordinate (parameters.takeWhile (· ≠ ';'))
      col := coordinate ((parameters.dropWhile (· ≠ ';')).drop 1) }
  else if final = 'J' ∧ parameters = ['2'] then
    { display with cells := .empty }
  else
    display

def read (display : Display) (character : Char) : Display :=
  match display.reading with
  | .text =>
      if character = escape then { display with reading := .escape } else display.print character
  | .escape =>
      { display with reading := if character = '[' then .parameters [] else .text }
  | .parameters read =>
      if isParameter character then
        { display with reading := .parameters (read ++ [character]) }
      else
        { display.carryOut read character with reading := .text }

def feed (display : Display) (text : List Char) : Display := text.foldl read display

/-- The row or the column that a display takes a coordinate for when it is told to go there. It is
another one only at the end of the range, where counting starts again. -/
def told (coordinate : Coordinate) : Nat := (coordinate.ahead 1).toNat - 1

def moved (display : Display) (position : Position) : Display :=
  { display with row := told position.row, col := told position.col }

def Ready (display : Display) : Prop := display.reading = .text

variable {display : Display}

theorem told_of_lt {coordinate : Coordinate} (bound : coordinate.toNat < Coordinate.limit) :
    told coordinate = coordinate.toNat := by
  rw [told, Coordinate.toNat_ahead _ bound, Nat.add_sub_cancel]

@[simp] theorem feed_nil (display : Display) : display.feed [] = display := rfl

theorem feed_cons (display : Display) (character : Char) (rest : List Char) :
    display.feed (character :: rest) = (display.read character).feed rest := rfl

theorem feed_append (display : Display) (first second : List Char) :
    display.feed (first ++ second) = (display.feed first).feed second := List.foldl_append

/-! ## Text -/

theorem read_of_text (ready : display.Ready) {character : Char} (different : character ≠ escape) :
    display.read character = display.print character := by
  rw [read, ready]
  exact if_neg different

theorem ready_print (ready : display.Ready) (character : Char) :
    (display.print character).Ready := ready

/-! ## Sequences

A whole sequence is carried out. As long as its last letter is missing, it does nothing to the
cells. -/

theorem read_escape (ready : display.Ready) :
    display.read escape = { display with reading := .escape } := by
  rw [read, ready]
  exact if_pos rfl

theorem feed_introducer (ready : display.Ready) :
    display.feed [escape, '['] = { display with reading := .parameters [] } := by
  rw [feed_cons, read_escape ready]
  rfl

theorem feed_parameters {parameters : List Char}
    (proper : ∀ character ∈ parameters, isParameter character = true) (read : List Char) :
    feed { display with reading := .parameters read } parameters =
      { display with reading := .parameters (read ++ parameters) } := by
  induction parameters generalizing read with
  | nil => rw [feed_nil, List.append_nil]
  | cons character rest induction =>
      have taken : Display.read { display with reading := .parameters read } character =
          { display with reading := .parameters (read ++ [character]) } := by
        simp only [Display.read, proper character List.mem_cons_self, if_true]
      have others : ∀ other ∈ rest, isParameter other = true := fun other later =>
        proper other (List.mem_cons_of_mem _ later)
      rw [feed_cons, taken, induction others, List.append_assoc]
      rfl

theorem carryOut_of_reading (ready : display.Ready) (reading : Reading) (parameters : List Char)
    (final : Char) :
    { carryOut { display with reading } parameters final with reading := .text } =
      display.carryOut parameters final := by
  rcases display with ⟨row, col, cells, _⟩
  cases ready
  simp only [carryOut]
  split
  · rfl
  · split <;> rfl

theorem feed_sequence (ready : display.Ready) {parameters : List Char} {final : Char}
    (proper : ∀ character ∈ parameters, isParameter character = true)
    (ends : isParameter final = false) :
    display.feed ([escape, '['] ++ parameters ++ [final]) = display.carryOut parameters final := by
  rw [feed_append, feed_append, feed_introducer ready, feed_parameters proper, feed_cons, feed_nil,
    List.nil_append]
  simp only [read, ends, Bool.false_eq_true, if_false]
  exact carryOut_of_reading ready (.parameters parameters) parameters final

theorem cells_feed_take (ready : display.Ready) {parameters : List Char} {final : Char}
    (proper : ∀ character ∈ parameters, isParameter character = true) {count : Nat}
    (short : count < ([escape, '['] ++ parameters ++ [final]).length) :
    (display.feed (([escape, '['] ++ parameters ++ [final]).take count)).cells = display.cells := by
  match count with
  | 0 => rfl
  | 1 =>
      change (display.read escape).cells = display.cells
      rw [read_escape ready]
  | count + 2 =>
      have inside : count ≤ parameters.length := by
        simp only [List.length_append, List.length_cons, List.length_nil] at short
        omega
      have taken : ([escape, '['] ++ parameters ++ [final]).take (count + 2) =
          [escape, '['] ++ parameters.take count := by
        simp only [List.cons_append, List.nil_append, List.take_succ_cons,
          List.take_append_of_le_length inside]
      rw [taken, feed_append, feed_introducer ready,
        feed_parameters fun character member => proper character (List.mem_of_mem_take member)]

end Display

/-! ## Instructions -/

namespace Instruction

def sequence? : Instruction → Option (String × Char)
  | resetAttributes => some ("0", 'm')
  | resetColors => some ("0", 'm')
  | foreground color => some ("38;5;" ++ toString color.index, 'm')
  | background color => some ("48;5;" ++ toString color.index, 'm')
  | graphic mode => some (toString mode.number, 'm')
  | moveTo position =>
      some (toString (position.row.ahead 1).toNat ++ ";" ++ toString (position.col.ahead 1).toNat,
        'H')
  | print _ => none
  | showCursor => some ("?25", 'h')
  | hideCursor => some ("?25", 'l')
  | defaultCursorShape => some ("0 ", 'q')
  | blockCursorShape => some ("2 ", 'q')
  | clearAll => some ("2", 'J')
  | enterAlternateScreen => some ("?1049", 'h')
  | leaveAlternateScreen => some ("?1049", 'l')

variable {instruction : Instruction} {parameters : String} {final : Char}

theorem isParameter_of_digit {character : Char} (digit : character.isDigit = true) :
    Display.isParameter character = true := by
  simp only [Char.isDigit, Bool.and_eq_true, decide_eq_true_eq, UInt32.le_iff_toNat_le] at digit
  have lower : 0x30 ≤ character.toNat := digit.1
  have upper : character.toNat ≤ 0x39 := digit.2
  simp only [Display.isParameter, Bool.and_eq_true, decide_eq_true_eq]
  omega

theorem toList_toString (number : Nat) : (toString number).toList = Nat.toDigits 10 number := by
  rw [Nat.toString_eq_ofList_toDigits, String.toList_ofList]

theorem isDigit_of_mem_toString {number : Nat} {character : Char}
    (member : character ∈ (toString number).toList) : character.isDigit = true := by
  rw [toList_toString] at member
  exact Nat.isDigit_of_mem_toDigits (by decide) (by decide) member

theorem isParameter_toString (number : Nat) :
    ∀ character ∈ (toString number).toList, Display.isParameter character = true :=
  fun _ member => isParameter_of_digit (isDigit_of_mem_toString member)

theorem toList_text_of_sequence (sent : instruction.sequence? = some (parameters, final)) :
    instruction.text.toList = [Display.escape, '['] ++ parameters.toList ++ [final] := by
  cases instruction <;> cases sent <;>
    simp [text, introducer, Display.escape, String.toList_append]

theorem isParameter_of_sequence (sent : instruction.sequence? = some (parameters, final)) :
    ∀ character ∈ parameters.toList, Display.isParameter character = true := by
  have numbered : ∀ number : Nat, (toString number).toList.all Display.isParameter = true :=
    fun number => List.all_eq_true.mpr (isParameter_toString number)
  apply List.all_eq_true.mp
  cases instruction with
  | print => cases sent
  | foreground color =>
      cases sent
      rw [String.toList_append, List.all_append, numbered]
      rfl
  | background color =>
      cases sent
      rw [String.toList_append, List.all_append, numbered]
      rfl
  | graphic mode =>
      cases sent
      exact numbered _
  | moveTo position =>
      cases sent
      rw [String.toList_append, String.toList_append, List.all_append, List.all_append, numbered,
        numbered]
      rfl
  | _ =>
      cases sent
      rfl

theorem isParameter_final (sent : instruction.sequence? = some (parameters, final)) :
    Display.isParameter final = false := by
  cases instruction <;> cases sent <;> decide

/-! A sequence has one byte for each of its characters. Where the output gets full in the middle of
one, the display gets its first characters. -/

theorem utf8Size_of_isParameter {character : Char}
    (proper : Display.isParameter character = true) : character.utf8Size = 1 := by
  simp only [Display.isParameter, Bool.and_eq_true, decide_eq_true_eq] at proper
  have small : character.val.toNat ≤ 127 := Nat.le_trans (Nat.le_of_lt proper.2) (by decide)
  exact Char.utf8Size_eq_one_iff.mpr (UInt32.le_iff_toNat_le.mpr small)

theorem utf8Size_of_sequence (sent : instruction.sequence? = some (parameters, final)) :
    ∀ character ∈ instruction.text.toList, character.utf8Size = 1 := by
  have opening : ∀ character ∈ [Display.escape, '['], character.utf8Size = 1 :=
    List.forall_mem_cons.mpr ⟨rfl, List.forall_mem_singleton.mpr rfl⟩
  have last : final.utf8Size = 1 := by
    cases instruction <;> cases sent <;> decide
  intro character member
  rw [toList_text_of_sequence sent] at member
  rcases List.mem_append.mp member with start | final
  · rcases List.mem_append.mp start with introducer | parameter
    · exact opening character introducer
    · exact utf8Size_of_isParameter (isParameter_of_sequence sent character parameter)
  · rw [List.mem_singleton.mp final]
    exact last

end Instruction

theorem utf8ByteSize_eq_length {text : List Char} (single : ∀ character ∈ text,
    character.utf8Size = 1) : (String.ofList text).utf8ByteSize = text.length := by
  induction text with
  | nil => rfl
  | cons character rest induction =>
      rw [List.forall_mem_cons] at single
      rw [String.ofList_cons, String.utf8ByteSize_append, String.utf8ByteSize_singleton, single.1,
        induction single.2, List.length_cons, Nat.add_comm]

theorem cutText_eq_take {text : List Char} (single : ∀ character ∈ text,
    character.utf8Size = 1) (bytes : Nat) : cutText text bytes = text.take bytes := by
  induction text generalizing bytes with
  | nil => rw [cutText, List.take_nil]
  | cons character rest induction =>
      rw [List.forall_mem_cons] at single
      rw [cutText, single.1]
      cases bytes with
      | zero => rfl
      | succ bytes =>
          rw [if_pos (Nat.le_add_left 1 bytes), Nat.add_sub_cancel, induction single.2,
            List.take_succ_cons]

namespace Display

variable {display : Display} {instruction : Instruction} {parameters : String} {final : Char}

theorem feed_of_sequence (ready : display.Ready)
    (sent : instruction.sequence? = some (parameters, final)) :
    display.feed instruction.text.toList = display.carryOut parameters.toList final := by
  rw [Instruction.toList_text_of_sequence sent]
  exact feed_sequence ready (Instruction.isParameter_of_sequence sent)
    (Instruction.isParameter_final sent)

/-- An instruction that prints nothing and that was not sent as a whole changes no cell. -/
theorem cells_feed_cutText (ready : display.Ready)
    (sent : instruction.sequence? = some (parameters, final)) {bytes : Nat}
    (short : bytes < instruction.text.utf8ByteSize) :
    (display.feed (cutText instruction.text.toList bytes)).cells = display.cells := by
  have single := Instruction.utf8Size_of_sequence sent
  have size := utf8ByteSize_eq_length single
  rw [String.ofList_toList] at size
  rw [size] at short
  rw [cutText_eq_take single]
  rw [Instruction.toList_text_of_sequence sent] at short ⊢
  exact cells_feed_take ready (Instruction.isParameter_of_sequence sent) short

theorem coordinate_toDigits (number : Nat) :
    coordinate (Nat.toDigits 10 number) = number - 1 := by
  rw [coordinate, Nat.ofDigitChars_ten_toDigits]

theorem feed_moveTo (ready : display.Ready) (position : Position) :
    display.feed (Instruction.moveTo position).text.toList = display.moved position := by
  have plain : ∀ number : Nat, ∀ character ∈ (toString number).toList,
      decide (character ≠ ';') = true := by
    intro number character member
    apply decide_eq_true
    intro same
    have digit := Instruction.isDigit_of_mem_toString member
    rw [same] at digit
    exact absurd digit (by decide)
  rw [feed_of_sequence ready rfl, carryOut, if_pos rfl]
  simp only [String.toList_append, List.append_assoc]
  rw [List.takeWhile_append_of_pos (plain _), List.dropWhile_append_of_pos (plain _)]
  simp [coordinate_toDigits, Display.moved, told]

theorem feed_clearAll (ready : display.Ready) :
    display.feed Instruction.clearAll.text.toList = { display with cells := .empty } := by
  rw [feed_of_sequence ready rfl, carryOut, if_neg (by decide), if_pos (by decide)]

theorem feed_of_neutral (ready : display.Ready)
    (sent : instruction.sequence? = some (parameters, final))
    (neutral : final ≠ 'H' ∧ final ≠ 'J') :
    display.feed instruction.text.toList = display := by
  rw [feed_of_sequence ready sent, carryOut, if_neg neutral.1,
    if_neg fun clears => neutral.2 clears.1]

end Display

end TerminalSession.Screen
