import TerminalSession.Proofs.TextLayout
import TerminalSession.Recorder

/-! # Where a text leaves the cursor

A recorder takes every character for one column and reckons in one step where a text leaves the
cursor. A screen goes from character to character and from row to row. For texts whose characters do
take one column each, both follow the same page to the same place, and what lies on the page after
the last row of the window is its last row for both. -/

namespace TerminalSession

/-! ## On the page -/

namespace Screen

namespace Spot

variable {cols : Nat} {spot : Spot}

def onward (spot : Spot) (cols count : Nat) : Spot :=
  ⟨spot.row + (spot.col + count) / cols, (spot.col + count) % cols⟩

theorem onward_zero (room : spot.col < cols) : spot.onward cols 0 = spot := by
  rw [onward, Nat.add_zero, Nat.div_eq_of_lt room, Nat.mod_eq_of_lt room, Nat.add_zero]

theorem fitting_one (room : spot.col < cols) : spot.fitting cols 1 = spot :=
  if_neg (Nat.not_lt.mpr room)

theorem onward_succ (room : spot.col < cols) (count : Nat) :
    spot.onward cols (count + 1) = (spot.behind cols 1).onward cols count := by
  rw [behind]
  split
  · rename_i full
    have last : spot.col + (count + 1) = count + cols := by omega
    have wide : 0 < cols := Nat.zero_lt_of_lt room
    rw [onward, last, Nat.add_div_right _ wide, Nat.add_mod_right, onward, below, Nat.zero_add]
    exact congrArg (Spot.mk · _) (Nat.add_right_comm spot.row (count / cols) 1)
  · rw [onward, onward, right, Nat.add_right_comm, Nat.add_assoc]

end Spot

section

variable {pane : Pane} {spot : Spot}

theorem Follows.cursor_eq {other : Pane} (follows : Follows pane spot)
    (follows' : Follows other spot) (same : pane.size = other.size) :
    pane.cursor = other.cursor := by
  have row : pane.cursor.row = other.cursor.row := by
    rw [← UInt16.toNat_inj, follows.row, follows'.row, same]
  have col : pane.cursor.col = other.cursor.col := by
    rw [← UInt16.toNat_inj, follows.col, follows'.col]
  calc pane.cursor
      = ⟨pane.cursor.row, pane.cursor.col⟩ := rfl
    _ = other.cursor := by rw [row, col]

theorem follows_advance (follows : Follows pane spot) (count : Nat) :
    Follows (pane.advance count) (spot.onward pane.size.cols.toNat count) := by
  have wide : 0 < pane.size.cols.toNat := Nat.zero_lt_of_lt follows.room
  have width : max pane.size.cols.toNat 1 = pane.size.cols.toNat := Nat.max_eq_left wide
  have less := Nat.mod_lt (spot.col + count) wide
  refine ⟨?_, ?_, less⟩
  · have row := follows.row
    have bound := pane.size.rows.toNat_lt
    simp only [Pane.advance, Spot.onward, Coordinate.toNat_least, Coordinate.toNat_clip,
      Coordinate.toNat_last, Coordinate.limit, follows.col, row, width]
    generalize (spot.col + count) / pane.size.cols.toNat = further
    omega
  · have bound := pane.size.cols.toNat_lt
    simp only [Pane.advance, Spot.onward, Coordinate.toNat_clip, Coordinate.limit, follows.col,
      width]
    omega

theorem width_newline : Text.width '\n' = 0 := by decide +kernel

theorem follows_putCharacter (follows : Follows pane spot) {character : Char}
    (plain : Text.width character = 1) :
    Follows (putCharacter pane character).2 (spot.behind pane.size.cols.toNat 1) := by
  have sign : character ≠ '\n' := by
    rintro rfl
    rw [width_newline] at plain
    cases plain
  have counted : pane.size.cols.toNat + 1 ≤ Coordinate.limit + 1 :=
    Nat.succ_le_succ (Nat.le_of_lt_succ pane.size.cols.toNat_lt)
  have start := follows_startOf follows counted
  rw [Spot.fitting_one follows.room] at start
  rw [putCharacter_sign sign, plain]
  exact follows_nextOf start counted

theorem follows_layout (follows : Follows pane spot) {text : List Char}
    (plain : ∀ character ∈ text, Text.width character = 1) :
    Follows (layout pane text).2 (spot.onward pane.size.cols.toNat text.length) := by
  induction text generalizing pane spot with
  | nil => exact (Spot.onward_zero follows.room).symm ▸ follows
  | cons character rest induction =>
      rw [List.forall_mem_cons] at plain
      rw [layout_cons, List.length_cons, Spot.onward_succ follows.room]
      exact induction (follows_putCharacter follows plain.1) plain.2

/-- Characters of one column leave a window as the recorder reckons. -/
theorem layout_plain (inside : pane.Inside) (wide : 1 ≤ pane.size.cols.toNat) {text : List Char}
    (plain : ∀ character ∈ text, Text.width character = 1) :
    (layout pane text).2 = pane.advance text.length := by
  have start : Follows pane ⟨pane.cursor.row.toNat, pane.cursor.col.toNat⟩ :=
    ⟨(Nat.min_eq_left inside.row).symm, rfl, Nat.lt_of_le_sub_one wide inside.col⟩
  have reckoned := follows_advance start text.length
  have laid := follows_layout start plain
  rcases moved_layout (moved_self inside) text with ⟨cursor, same, _⟩
  rw [same] at laid ⊢
  have agreed : cursor = (pane.advance text.length).cursor := laid.cursor_eq reckoned rfl
  rw [agreed]
  rfl

end

/-! ## The calls -/

variable {pane : Pane} {window : Handle} {text : String}

theorem found_after_putText {screen : Screen} (found : screen.panes.get? window = some pane)
    (inside : pane.Inside)
    (done : (perform (.putText window text) screen).answer.isOk = true) :
    (perform (.putText window text) screen).terminal.panes.get? window =
      some (layout pane text.toList).2 := by
  apply perform_rule (motive := fun reply => reply.answer.isOk = true →
    reply.terminal.panes.get? window = some (layout pane text.toList).2) _ done
  apply (lays_putText found inside text).mono
  · intro _ _ ⟨_, there⟩ _
    exact there
  · intro _ _ _ failed
    cases failed

end Screen

namespace Recorder

variable {recorder : Recorder} {pane : Pane} {window : Handle}

theorem perform_putText (found : recorder.panes.get? window = some pane) (text : String) :
    let reply := perform (.putText window text) recorder
    (reply.answer.isOk = true ↔ (trigger .putText recorder.armed).1 = false) ∧
      (reply.answer.isOk = true →
        reply.terminal.panes.get? window = some (pane.advance text.length)) := by
  intro reply
  cases fired : trigger .putText recorder.armed with
  | mk fails armed =>
      cases fails with
      | true => simp [reply, perform, Call.kind, fired, Except.isOk, Except.toBool]
      | false =>
          simp [reply, perform, Call.kind, fired, answer, onPane, found, Except.isOk,
            Except.toBool, Panes.get?_set found]

end Recorder

/-- A window of a recorder and one of a screen that have the same size and the same cursor have the
same cursor after a text whose characters take one column each. Nothing else about them changes. -/
theorem plain_text_moves_cursors_alike {recorder : Recorder} {screen : Screen}
    {window other : Handle} {pane copy : Pane} {text : String}
    (recorded : recorder.panes.get? window = some pane)
    (shown : screen.panes.get? other = some copy)
    (size : copy.size = pane.size) (cursor : copy.cursor = pane.cursor)
    (inside : pane.Inside) (wide : 1 ≤ pane.size.cols.toNat)
    (plain : ∀ character ∈ text.toList, Text.width character = 1) :
    let written := recorder.perform (.putText window text)
    let drawn := screen.perform (.putText other text)
    ((Recorder.trigger .putText recorder.armed).1 = false → written.answer.isOk = true) ∧
      (screen.device.output.room = none → drawn.answer.isOk = true) ∧
      (written.answer.isOk = true → drawn.answer.isOk = true →
        ∃ cursor, written.terminal.panes.get? window = some { pane with cursor } ∧
          drawn.terminal.panes.get? other = some { copy with cursor } ∧
          Pane.Inside { pane with cursor }) := by
  intro written drawn
  have alike : (copy.advance text.length).cursor = (pane.advance text.length).cursor := by
    simp only [Pane.advance, size, cursor]
  have within : copy.Inside := by
    constructor
    · rw [size, cursor]
      exact inside.row
    · rw [size, cursor]
      exact inside.col
  have reckoned := Recorder.perform_putText recorded text
  have sent := Screen.delivered_of_sends (Screen.sends_putText shown within text)
  refine ⟨reckoned.1.mpr, sent.unlimited, ?_⟩
  intro noted laid
  refine ⟨(pane.advance text.length).cursor, reckoned.2 noted, ?_, ?_⟩
  · rw [← alike, Screen.found_after_putText shown within laid,
      Screen.layout_plain within (size ▸ wide) plain, String.length_toList]
    rfl
  · rcases Screen.moved_layout (Screen.moved_self inside) text.toList with ⟨last, same, there⟩
    rw [Screen.layout_plain inside wide plain, String.length_toList] at same
    exact same ▸ there

/-- Ten letters from the second cell on run past the end of a window of two rows more than once. -/
theorem letters_past_last_row :
    let pane : Pane := { origin := ⟨1, 4⟩, size := ⟨2, 3⟩, cursor := ⟨0, 1⟩ }
    let panes := (Panes.ofScreen ⟨4, 8⟩).add pane
    let recorder : Recorder := { screen := ⟨4, 8⟩, panes }
    let screen : Screen := { size := ⟨4, 8⟩, panes, device := {} }
    let last : Pane := { pane with cursor := ⟨1, 2⟩ }
    (recorder.perform (.putText 1 "abcdefghij")).terminal.panes.get? 1 = some last ∧
      (screen.perform (.putText 1 "abcdefghij")).terminal.panes.get? 1 = some last := by
  intro pane panes recorder screen last
  have all : "abcdefghij".toList.all (Text.width · = 1) = true := by decide +kernel
  have plain : ∀ character ∈ "abcdefghij".toList, Text.width character = 1 :=
    fun character member => of_decide_eq_true (List.all_eq_true.mp all character member)
  have noted : recorder.panes.get? 1 = some pane := rfl
  have drawn : screen.panes.get? 1 = some pane := rfl
  have alike := plain_text_moves_cursors_alike noted drawn rfl rfl ⟨by decide, by decide⟩
    (by decide) plain
  have written : (recorder.perform (.putText 1 "abcdefghij")).terminal.panes.get? 1 =
      some last := by decide +kernel
  rcases alike.2.2 (alike.1 rfl) (alike.2.1 rfl) with ⟨cursor, recorded, shown, _⟩
  refine ⟨written, ?_⟩
  rw [shown, ← recorded, written]

end TerminalSession
