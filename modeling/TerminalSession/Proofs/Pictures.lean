import TerminalSession.Proofs.CursorsInside
import TerminalSession.Proofs.Display
import TerminalSession.Proofs.SentInstructions

/-! # The pictures that instructions draw

A picture is what some cells show. Instructions depict one if a display that reads them shows it
over what it showed, and if nothing but the cells of the picture is touched where the output gets
full halfway. Both are closed under sending one list after another, so the picture of a drawing
comes from the pictures of its strokes. -/

namespace TerminalSession

theorem Coordinate.clip_toNat (coordinate : Coordinate) : clip coordinate.toNat = coordinate := by
  have bound := coordinate.toNat_lt
  apply UInt16.toNat_inj.mp
  rw [toNat_clip, limit]
  omega

theorem Coordinate.toNat_clip_of_lt {count : Nat} {size : Coordinate} (bound : count < size.toNat) :
    (clip count).toNat = count := by
  have limited := size.toNat_lt
  rw [toNat_clip, limit]
  omega

theorem Coordinate.toNat_shift_of_lt {origin size offset : Coordinate}
    (room : origin.toNat + size.toNat ≤ limit) (inside : offset.toNat < size.toNat) :
    (origin.shift offset).toNat = origin.toNat + offset.toNat := by
  rw [toNat_shift]
  omega

theorem told_shift {origin size offset : Coordinate}
    (room : origin.toNat + size.toNat ≤ Coordinate.limit) (inside : offset.toNat < size.toNat) :
    Screen.Display.told (origin.shift offset) = origin.toNat + offset.toNat := by
  have sum := Coordinate.toNat_shift_of_lt room inside
  rw [Screen.Display.told_of_lt (by omega), sum]

/-- The pane ends within the coordinates that a screen has. Its cells have rows and columns that can
also be counted from one. -/
structure Pane.OnScreen (pane : Pane) : Prop where
  rows : pane.origin.row.toNat + pane.size.rows.toNat ≤ Coordinate.limit
  cols : pane.origin.col.toNat + pane.size.cols.toNat ≤ Coordinate.limit

namespace Pane

variable {pane : Pane}

theorem OnScreen.toScreen_row (placed : pane.OnScreen) {position : Position}
    (inside : position.row.toNat < pane.size.rows.toNat) :
    (pane.toScreen position).row.toNat = pane.origin.row.toNat + position.row.toNat :=
  Coordinate.toNat_shift_of_lt placed.rows inside

theorem OnScreen.toScreen_col (placed : pane.OnScreen) {position : Position}
    (inside : position.col.toNat < pane.size.cols.toNat) :
    (pane.toScreen position).col.toNat = pane.origin.col.toNat + position.col.toNat :=
  Coordinate.toNat_shift_of_lt placed.cols inside

theorem OnScreen.told_row (placed : pane.OnScreen) {position : Position}
    (inside : position.row.toNat < pane.size.rows.toNat) :
    Screen.Display.told (pane.toScreen position).row =
      pane.origin.row.toNat + position.row.toNat :=
  told_shift placed.rows inside

theorem OnScreen.told_col (placed : pane.OnScreen) {position : Position}
    (inside : position.col.toNat < pane.size.cols.toNat) :
    Screen.Display.told (pane.toScreen position).col =
      pane.origin.col.toNat + position.col.toNat :=
  told_shift placed.cols inside

end Pane

namespace Screen

/-! ## Printed text

A text is legible if every character takes up columns. Of a text that was not sent as a whole
nothing is printed out of its place. -/

def columns : List Char → Nat
  | [] => 0
  | character :: rest => Text.width character + columns rest

theorem columns_replicate (count : Nat) (character : Char) :
    columns (List.replicate count character) = count * Text.width character := by
  induction count with
  | zero => rw [List.replicate_zero, columns, Nat.zero_mul]
  | succ count induction =>
      rw [List.replicate_succ, columns, induction, Nat.succ_mul, Nat.add_comm]

namespace Line

def ofText (col : Nat) : List Char → Line
  | [] => .empty
  | character :: rest =>
      (ofText (col + Text.width character) rest).overlay
        (.span col (Text.width character) character)

theorem ofText_append (col : Nat) (first second : List Char) :
    ofText col (first ++ second) =
      (ofText (col + columns first) second).overlay (ofText col first) := by
  induction first generalizing col with
  | nil => rw [List.nil_append, columns, Nat.add_zero, ofText, overlay_empty]
  | cons character rest induction =>
      rw [List.cons_append, ofText, induction, overlay_assoc, ofText, columns, Nat.add_assoc]

theorem ofText_singleton (col : Nat) (character : Char) :
    ofText col [character] = .span col (Text.width character) character := by
  rw [ofText, ofText, empty_overlay]

theorem span_zero (left : Nat) (character : Char) : span left 0 character = empty := by
  funext col
  exact if_neg (by omega)

theorem span_add (left width further : Nat) (character : Char) :
    span left (width + further) character =
      (span (left + width) further character).overlay (span left width character) := by
  funext col
  simp only [overlay, span]
  by_cases here : left ≤ col ∧ col < left + width
  · rw [if_pos (by omega), if_neg (by omega), if_pos here, Option.none_or]
  · by_cases later : left + width ≤ col ∧ col < left + width + further
    · rw [if_pos (by omega), if_pos later, if_neg here, Option.or_none]
    · rw [if_neg (by omega), if_neg later, if_neg here, Option.or_none]

theorem ofText_replicate (col count : Nat) (character : Char) :
    ofText col (List.replicate count character) =
      span col (count * Text.width character) character := by
  induction count generalizing col with
  | zero => rw [List.replicate_zero, Nat.zero_mul, span_zero, ofText]
  | succ count induction =>
      rw [List.replicate_succ, ofText, induction, Nat.succ_mul,
        Nat.add_comm (count * Text.width character), span_add]

end Line

theorem width_escape : Text.width Display.escape = 0 := by decide +kernel

theorem width_replacement : Text.width '\uFFFD' = 1 := by decide +kernel

def Legible (text : List Char) : Prop := ∀ character ∈ text, 1 ≤ Text.width character

theorem legible_cons {character : Char} {rest : List Char} :
    Legible (character :: rest) ↔ 1 ≤ Text.width character ∧ Legible rest :=
  List.forall_mem_cons

theorem ne_escape {character : Char} (wide : 1 ≤ Text.width character) :
    character ≠ Display.escape := by
  intro same
  rw [same, width_escape] at wide
  cases wide

namespace Display

variable {display : Display}

theorem feed_of_legible (ready : display.Ready) {text : List Char} (legible : Legible text) :
    (display.feed text).Ready ∧
      (display.feed text).cells =
        (Cells.band display.row 1 (.ofText display.col text)).overlay display.cells := by
  induction text generalizing display with
  | nil =>
      refine ⟨ready, ?_⟩
      rw [Line.ofText, Cells.band_empty, Cells.empty_overlay, feed_nil]
  | cons character rest induction =>
      rw [legible_cons] at legible
      have printed := induction (display.ready_print ready character) legible.2
      rw [feed_cons, read_of_text ready (ne_escape legible.1)]
      refine ⟨printed.1, ?_⟩
      rw [printed.2, Line.ofText, ← Cells.band_overlay, Cells.overlay_assoc]
      rfl

theorem cells_feed_cutText_of_legible (ready : display.Ready) {text : List Char}
    (legible : Legible text) (bytes : Nat) {row col : Nat}
    (outside : Cells.band display.row 1 (.ofText display.col text) row col = none) :
    (display.feed (cutText text bytes)).cells row col = display.cells row col := by
  induction text generalizing display bytes with
  | nil => rfl
  | cons character rest induction =>
      rw [legible_cons] at legible
      rw [Line.ofText, ← Cells.band_overlay, Cells.overlay_eq_none_iff] at outside
      rw [cutText]
      split
      · rw [feed_cons, read_of_text ready (ne_escape legible.1),
          induction (display.ready_print ready character) legible.2 _ outside.1]
        exact Cells.overlay_of_none outside.2 _
      · split
        · rfl
        · -- the sign for a part of a character is no wider than the character
          have beside := Cells.box_eq_none_iff.mp outside.2
          rw [feed_cons, read_of_text ready (by decide)]
          apply Cells.overlay_of_none
          rw [Cells.box_eq_none_iff, width_replacement]
          omega

end Display

/-! ## Pictures of instructions -/

/-- What a display shows that reads these instructions is the picture over what `ground` makes of
its cells. If the output gets full among them, a cell out of the picture shows what it showed, or
what the ground shows there. -/
structure Depicts (ground : Cells → Cells) (instructions : List Instruction) (picture : Cells) :
    Prop where
  whole : ∀ display : Display, display.Ready →
    (display.feed (charactersOf (instructions.map .whole))).Ready ∧
      (display.feed (charactersOf (instructions.map .whole))).cells =
        picture.overlay (ground display.cells)
  broken : ∀ (display : Display) gained, display.Ready → BrokenOff instructions gained →
    ∀ row col, picture row col = none →
      (display.feed (charactersOf gained)).cells row col = display.cells row col ∨
        (display.feed (charactersOf gained)).cells row col = ground display.cells row col

namespace Depicts

variable {ground : Cells → Cells} {first second : List Instruction} {picture lower upper : Cells}

theorem nil : Depicts id [] .empty where
  whole _ ready := ⟨ready, (Cells.empty_overlay _).symm⟩
  broken := by
    intro _ _ _ broken
    cases broken

/-- What is drawn later hides what was drawn before. -/
theorem append (one : Depicts ground first lower) (other : Depicts id second upper) :
    Depicts ground (first ++ second) (upper.overlay lower) where
  whole := by
    intro display ready
    have before := one.whole display ready
    have after := other.whole _ before.1
    rw [List.map_append, charactersOf_append, Display.feed_append]
    refine ⟨after.1, ?_⟩
    rw [after.2, before.2, Cells.overlay_assoc]
    rfl
  broken := by
    intro display gained ready broken row col outside
    rw [Cells.overlay_eq_none_iff] at outside
    rcases broken.of_append with inFirst | inSecond
    · exact one.broken display gained ready inFirst row col outside.2
    · rcases inSecond with ⟨rest, rfl, later⟩
      have before := one.whole display ready
      right
      rw [charactersOf_append, Display.feed_append]
      have after := other.broken _ rest before.1 later row col outside.1
      rw [id_eq, or_self] at after
      rw [after, before.2, Cells.overlay_of_none outside.2]

theorem sequence {instruction : Instruction} {parameters : String} {final : Char}
    (sent : instruction.sequence? = some (parameters, final))
    (whole : ∀ display : Display, display.Ready →
      (display.feed instruction.text.toList).Ready ∧
        (display.feed instruction.text.toList).cells = ground display.cells) :
    Depicts ground [instruction] .empty where
  whole := by
    intro display ready
    have same : charactersOf ([instruction].map .whole) = instruction.text.toList := by
      rw [List.map_singleton, charactersOf_whole, charactersOf, List.flatMap_nil, List.append_nil]
    rw [same, Cells.empty_overlay]
    exact whole display ready
  broken := by
    intro display gained ready broken row col _
    cases broken with
    | here bytes _ short =>
        left
        rw [charactersOf_cut, Display.cells_feed_cutText ready sent short]
    | later broken => cases broken

theorem neutral {instruction : Instruction} {parameters : String} {final : Char}
    (sent : instruction.sequence? = some (parameters, final))
    (calm : final ≠ 'H' ∧ final ≠ 'J') : Depicts id [instruction] .empty := by
  apply sequence sent
  intro display ready
  rw [Display.feed_of_neutral ready sent calm]
  exact ⟨ready, rfl⟩

theorem clearAll : Depicts (fun _ => .empty) [.clearAll] .empty := by
  apply sequence rfl
  intro display ready
  rw [Display.feed_clearAll ready]
  exact ⟨ready, rfl⟩

theorem of_neutral {instructions : List Instruction}
    (each : ∀ instruction ∈ instructions, Depicts id [instruction] .empty) :
    Depicts id instructions .empty := by
  induction instructions with
  | nil => exact nil
  | cons instruction rest induction =>
      rw [List.forall_mem_cons] at each
      have both := each.1.append (induction each.2)
      rwa [Cells.overlay_empty] at both

theorem rendition (pairs : Array (Color × Color)) (rendition : Rendition) :
    Depicts id (renditionInstructions pairs rendition) .empty := by
  apply of_neutral
  intro instruction member
  simp only [renditionInstructions, List.mem_append] at member
  rcases member with (resets | colors) | graphics
  · simp only [List.mem_cons, List.not_mem_nil, or_false] at resets
    rcases resets with rfl | rfl
    · exact neutral rfl (by decide)
    · exact neutral rfl (by decide)
  · split at colors
    · cases colors
    · split at colors
      · simp only [List.mem_cons, List.not_mem_nil, or_false] at colors
        rcases colors with rfl | rfl
        · exact neutral rfl (by decide)
        · exact neutral rfl (by decide)
      · cases colors
  · rcases List.mem_filterMap.mp graphics with ⟨flag, _, chosen⟩
    rcases Option.map_eq_some_iff.mp chosen with ⟨graphic, _, rfl⟩
    exact neutral rfl (by decide)

theorem printAt (pane : Pane) (position : Position) {text : String}
    (legible : Legible text.toList) :
    Depicts id (Screen.printAt pane position text)
      (.band (Display.told (pane.toScreen position).row) 1
        (.ofText (Display.told (pane.toScreen position).col) text.toList)) where
  whole := by
    intro display ready
    have same : charactersOf ((Screen.printAt pane position text).map .whole) =
        (Instruction.moveTo (pane.toScreen position)).text.toList ++ text.toList := by
      rw [Screen.printAt, List.map_cons, List.map_singleton, charactersOf_whole, charactersOf_whole,
        charactersOf, List.flatMap_nil, List.append_nil]
      rfl
    have there : (display.moved (pane.toScreen position)).Ready := ready
    rw [same, Display.feed_append, Display.feed_moveTo ready]
    exact Display.feed_of_legible there legible
  broken := by
    intro display gained ready broken row col outside
    left
    cases broken with
    | here bytes _ short => rw [charactersOf_cut, Display.cells_feed_cutText ready rfl short]
    | later broken =>
        rw [charactersOf_whole, Display.feed_append, Display.feed_moveTo ready]
        cases broken with
        | here bytes _ _ =>
            have there : (display.moved (pane.toScreen position)).Ready := ready
            rw [charactersOf_cut]
            exact Display.cells_feed_cutText_of_legible there legible bytes outside
        | later broken => cases broken

/-- Drawings for one row after the other, where every row gets the same line. -/
theorem rows {draw : Nat → List Instruction} {top count : Nat} {line : Line}
    (each : ∀ step < count, Depicts id (draw step) (.band (top + step) 1 line)) :
    Depicts id ((List.range count).flatMap draw) (.band top count line) := by
  induction count with
  | zero =>
      rw [Cells.band_zero]
      exact nil
  | succ count induction =>
      have before := induction fun step bound => each step (Nat.lt_succ_of_lt bound)
      rw [List.range_succ, List.flatMap_append, List.flatMap_singleton, Cells.band_succ]
      exact before.append (each count (Nat.lt_succ_self count))

end Depicts

/-! ## Strokes in a window

A text in a window is drawn as far from the origin of the window as it says. -/

theorem depicts_printAt {pane : Pane} (placed : pane.OnScreen) (position : Position)
    (row : position.row.toNat < pane.size.rows.toNat)
    (col : position.col.toNat < pane.size.cols.toNat) {text : String}
    (legible : Legible text.toList) :
    Depicts id (printAt pane position text)
      (.band (pane.origin.row.toNat + position.row.toNat) 1
        (.ofText (pane.origin.col.toNat + position.col.toNat) text.toList)) := by
  have drawn := Depicts.printAt pane position legible
  rwa [placed.told_row row, placed.told_col col] at drawn

theorem depicts_character {pane : Pane} (placed : pane.OnScreen) (position : Position)
    (row : position.row.toNat < pane.size.rows.toNat)
    (col : position.col.toNat < pane.size.cols.toNat) {character : Char}
    (wide : 1 ≤ Text.width character) :
    Depicts id (printAt pane position character.toString)
      (.box (pane.origin.row.toNat + position.row.toNat)
        (pane.origin.col.toNat + position.col.toNat) 1 (Text.width character) character) := by
  have text : character.toString.toList = [character] := by
    rw [Char.toString_eq_singleton, String.toList_singleton]
  have legible : Legible character.toString.toList := by
    rw [text]
    exact List.forall_mem_singleton.mpr wide
  have drawn := depicts_printAt placed position row col legible
  rwa [text, Line.ofText_singleton] at drawn

theorem toList_replicate (count : Nat) (character : Char) :
    (Text.replicate count character).toList = List.replicate count character :=
  String.toList_ofList

theorem legible_replicate {character : Char} (wide : 1 ≤ Text.width character) (count : Nat) :
    Legible (List.replicate count character) := by
  intro other member
  rw [List.eq_of_mem_replicate member]
  exact wide

/-! ## Pictures of calls -/

variable {α : Type} {ground : Cells → Cells} {instructions : List Instruction} {picture : Cells}

/-- The call has drawn this picture over what `ground` makes of the cells. With enough room in the
output it succeeds. However it ends, the output only has more text than before, and a display that
reads the new text shows the picture if the call succeeded. If not, nothing out of the picture is
different, unless the ground is laid. -/
structure Painted (before : Screen) (reply : Reply Screen α) (ground : Cells → Cells)
    (picture : Cells) : Prop where
  unlimited : before.device.output.room = none → reply.answer.isOk = true
  shown : ∃ text : List Char,
    reply.terminal.device.output.text.toList = before.device.output.text.toList ++ text ∧
    ∀ display : Display, display.Ready →
      (reply.answer.isOk = true →
        (display.feed text).cells = picture.overlay (ground display.cells)) ∧
      ∀ row col, picture row col = none →
        (display.feed text).cells row col = display.cells row col ∨
          (display.feed text).cells row col = ground display.cells row col

/-- A call that sends the instructions for a picture draws it. -/
theorem painted_of_sends {call : Call} {screen : Screen}
    (depicts : Depicts ground instructions picture)
    (sends : Sends instructions (answer call) screen) :
    Painted screen (perform call screen) ground picture := by
  have delivered := delivered_of_sends sends
  refine ⟨delivered.unlimited, ?_⟩
  cases done : (perform call screen).answer.isOk with
  | true =>
      refine ⟨_, (delivered.whole done).text, ?_⟩
      intro display ready
      have drawn := (depicts.whole display ready).2
      refine ⟨fun _ => drawn, ?_⟩
      intro row col outside
      right
      rw [drawn, Cells.overlay_of_none outside]
  | false =>
      rcases delivered.broken done with ⟨gained, broken, gains⟩
      refine ⟨_, gains.text, ?_⟩
      intro display ready
      exact ⟨fun ended => absurd ended Bool.false_ne_true,
        depicts.broken display gained ready broken⟩

theorem painted_in_rendition {call : Call} {screen : Screen} {rendition : Rendition}
    (depicts : Depicts id instructions picture)
    (sends : Sends (renditionInstructions screen.pairs rendition ++ instructions) (answer call)
      screen) :
    Painted screen (perform call screen) id picture := by
  have drawn := (Depicts.rendition screen.pairs rendition).append depicts
  rw [Cells.overlay_empty] at drawn
  exact painted_of_sends drawn sends

end Screen

end TerminalSession
