import TerminalSession.Proofs.ArmedRecorder

/-! # Where characters leave a recorder's cursor

A recorder reckons in one step where a text leaves the cursor. It comes to the same as going from
character to character, whatever size the window has and wherever the cursor was: the first
character brings it inside, and what the last row has held back is held back for good. -/

namespace TerminalSession

/-! ## Rows and columns

Full rows are counted alike in one step and in two, and no row is lost on the way, up to the
last. -/

namespace Pane

variable (pane : Pane)

theorem toNat_row_advance (count : Nat) :
    (pane.advance count).cursor.row.toNat =
      min (pane.cursor.row.toNat +
        (pane.cursor.col.toNat + count) / max pane.size.cols.toNat 1) (pane.size.rows.toNat - 1) := by
  have bound := pane.size.rows.toNat_lt
  simp only [advance, Coordinate.toNat_least, Coordinate.toNat_clip, Coordinate.toNat_last,
    Coordinate.limit]
  omega

theorem toNat_col_advance (count : Nat) :
    (pane.advance count).cursor.col.toNat =
      (pane.cursor.col.toNat + count) % max pane.size.cols.toNat 1 := by
  have bound := pane.size.cols.toNat_lt
  have less := Nat.mod_lt (pane.cursor.col.toNat + count)
    (Nat.lt_of_lt_of_le Nat.zero_lt_one (Nat.le_max_right pane.size.cols.toNat 1))
  simp only [advance, Coordinate.toNat_clip, Coordinate.limit]
  omega

theorem col_advance_lt (count : Nat) :
    (pane.advance count).cursor.col.toNat < max pane.size.cols.toNat 1 := by
  rw [toNat_col_advance]
  exact Nat.mod_lt _ (Nat.lt_of_lt_of_le Nat.zero_lt_one (Nat.le_max_right _ 1))

theorem row_advance_le (count : Nat) :
    (pane.advance count).cursor.row.toNat ≤ pane.size.rows.toNat - 1 := by
  rw [toNat_row_advance]
  exact Nat.min_le_right _ _

theorem div_add_div {width : Nat} (wide : 0 < width) (start first second : Nat) :
    (start + first) / width + ((start + first) % width + second) / width =
      (start + (first + second)) / width := by
  have parts := Nat.div_add_mod (start + first) width
  have regrouped : start + (first + second) =
      ((start + first) % width + second) + width * ((start + first) / width) := by omega
  rw [regrouped, Nat.add_mul_div_left _ _ wide, Nat.add_comm]

/-- Being held back at the last row on the way makes no difference in the end. -/
theorem min_min_add (start further last : Nat) :
    min (min start last + further) last = min (start + further) last := by
  omega

theorem advance_advance (first second : Nat) :
    (pane.advance first).advance second = pane.advance (first + second) := by
  have wide : 0 < max pane.size.cols.toNat 1 :=
    Nat.lt_of_lt_of_le Nat.zero_lt_one (Nat.le_max_right _ 1)
  have row : ((pane.advance first).advance second).cursor.row =
      (pane.advance (first + second)).cursor.row := by
    have rows := div_add_div wide pane.cursor.col.toNat first second
    have same : (pane.advance first).size = pane.size := rfl
    rw [← UInt16.toNat_inj, toNat_row_advance, toNat_row_advance, toNat_row_advance,
      toNat_col_advance, same, min_min_add, Nat.add_assoc, rows]
  have col : ((pane.advance first).advance second).cursor.col =
      (pane.advance (first + second)).cursor.col := by
    have same : (pane.advance first).size = pane.size := rfl
    rw [← UInt16.toNat_inj, toNat_col_advance, toNat_col_advance, toNat_col_advance, same,
      Nat.mod_add_mod, Nat.add_assoc]
  have cursor : ((pane.advance first).advance second).cursor =
      (pane.advance (first + second)).cursor := by
    calc ((pane.advance first).advance second).cursor
        = ⟨((pane.advance first).advance second).cursor.row,
            ((pane.advance first).advance second).cursor.col⟩ := rfl
      _ = (pane.advance (first + second)).cursor := by rw [row, col]
  calc (pane.advance first).advance second
      = { pane with cursor := ((pane.advance first).advance second).cursor } := rfl
    _ = pane.advance (first + second) := by rw [cursor]; rfl

end Pane

/-! ## Calls that write characters -/

namespace Call

def letters : Call → Nat
  | .putChar _ _ => 1
  | .putText _ text => text.length
  | _ => 0

def WritesTo (window : Handle) : Call → Prop
  | .putChar written _ => written = window
  | .putText written _ => written = window
  | _ => False

end Call

namespace Recorder

variable {recorder : Recorder} {window : Handle} {pane : Pane} {called : Call}

def Completes (recorder : Recorder) (calls : List Call) : Prop :=
  ∀ asked ∈ (recorder.replay calls).1, asked.answer.isOk = true

theorem answer_writes (found : recorder.panes.get? window = some pane)
    (writes : called.WritesTo window) :
    (answer called recorder).1.isOk = true ∧
      (answer called recorder).2.panes.get? window = some (pane.advance called.letters) := by
  cases called with
  | putChar written character =>
      cases writes
      simp only [answer, onPane, found]
      exact ⟨rfl, by rw [Panes.get?_set found, if_pos rfl]; rfl⟩
  | putText written text =>
      cases writes
      simp only [answer, onPane, found]
      exact ⟨rfl, by rw [Panes.get?_set found, if_pos rfl]; rfl⟩
  | _ => cases writes

theorem found_of_ok (found : recorder.panes.get? window = some pane)
    (writes : called.WritesTo window) (succeeded : (perform called recorder).answer.isOk = true) :
    (perform called recorder).terminal.panes.get? window = some (pane.advance called.letters) := by
  rw [perform_eq] at succeeded ⊢
  by_cases due : recorder.isDue called.kind = true
  · rw [if_pos due] at succeeded
    cases succeeded
  · rw [if_neg due]
    exact (answer_writes found writes).2

theorem ok_of_disarmed (found : recorder.panes.get? window = some pane)
    (writes : called.WritesTo window) (disarmed : recorder.armed = none) :
    (perform called recorder).answer.isOk = true ∧
      (perform called recorder).terminal.armed = none := by
  have spared : recorder.isDue called.kind = false := by
    simp [isDue, disarmed, trigger]
  have after : recorder.armedAfter called.kind = none := by
    simp [armedAfter, disarmed, trigger]
  rw [perform_eq, spared, after]
  exact ⟨(answer_writes found writes).1, rfl⟩

theorem completes_cons {earlier : List Call} :
    recorder.Completes (called :: earlier) ↔
      (perform called (recorder.replay earlier).2).answer.isOk = true ∧
        recorder.Completes earlier := by
  rw [Completes, replay_cons, List.forall_mem_cons, Completes]

def lettersOf : List Call → Nat
  | [] => 0
  | called :: earlier => lettersOf earlier + called.letters

theorem found_of_call (found : recorder.panes.get? window = some pane)
    (writes : called.WritesTo window) (completes : recorder.Completes [called]) :
    (recorder.replay [called]).2.panes.get? window = some (pane.advance called.letters) :=
  found_of_ok found writes (completes_cons.mp completes).1

/-- Any number of calls, one at least, leave the cursor behind all their characters. -/
theorem found_of_completes (found : recorder.panes.get? window = some pane)
    {earlier : List Call} (writes : ∀ call ∈ called :: earlier, call.WritesTo window)
    (completes : recorder.Completes (called :: earlier)) :
    (recorder.replay (called :: earlier)).2.panes.get? window =
      some (pane.advance (lettersOf (called :: earlier))) := by
  induction earlier generalizing called with
  | nil =>
      rw [lettersOf, lettersOf, Nat.zero_add]
      exact found_of_call found (writes called List.mem_cons_self) completes
  | cons before rest induction =>
      rw [completes_cons] at completes
      rw [List.forall_mem_cons] at writes
      have reached := induction writes.2 completes.2
      have moved := found_of_ok reached writes.1 completes.1
      rw [Pane.advance_advance] at moved
      exact moved

theorem completes_of_disarmed (found : recorder.panes.get? window = some pane)
    (disarmed : recorder.armed = none) {calls : List Call}
    (writes : ∀ call ∈ calls, call.WritesTo window) :
    recorder.Completes calls ∧ (recorder.replay calls).2.armed = none := by
  induction calls with
  | nil => exact ⟨List.forall_mem_nil _, disarmed⟩
  | cons called earlier induction =>
      rw [List.forall_mem_cons] at writes
      rcases induction writes.2 with ⟨completes, spared⟩
      have there : ∃ pane, (recorder.replay earlier).2.panes.get? window = some pane := by
        cases earlier with
        | nil => exact ⟨pane, found⟩
        | cons before rest => exact ⟨_, found_of_completes found writes.2 completes⟩
      rcases there with ⟨reached, there⟩
      have done := ok_of_disarmed there writes.1 spared
      exact ⟨completes_cons.mpr ⟨done.1, completes⟩, done.2⟩

/-! ## Texts and characters -/

def spelled (window : Handle) (text : String) : List Call :=
  text.toList.reverse.map (Call.putChar window)

theorem writesTo_of_mem_spelled (window : Handle) (text : String) :
    ∀ call ∈ spelled window text, call.WritesTo window := by
  intro call member
  rcases List.mem_map.mp member with ⟨character, _, rfl⟩
  rfl

theorem lettersOf_map_putChar (window : Handle) (characters : List Char) :
    lettersOf (characters.map (Call.putChar window)) = characters.length := by
  induction characters with
  | nil => rfl
  | cons character characters induction => exact congrArg (· + 1) induction

theorem lettersOf_spelled (window : Handle) (text : String) :
    lettersOf (spelled window text) = text.length := by
  rw [spelled, lettersOf_map_putChar, List.length_reverse, String.length_toList]

/-- A text leaves the cursor where its characters leave it one by one, and where its parts do. It is
a cell of the window, if the window has any, and no count is cut short on the way. Calls succeed
unless they are made to fail. -/
theorem text_advances_as_characters (found : recorder.panes.get? window = some pane)
    (text more : String) :
    let left (calls : List Call) := (recorder.replay calls).2.panes.get? window
    (recorder.armed = none → ∀ calls, (∀ call ∈ calls, call.WritesTo window) →
      recorder.Completes calls) ∧
    (text ≠ "" → recorder.Completes [.putText window text] →
      recorder.Completes (spelled window text) →
        left [.putText window text] = left (spelled window text)) ∧
    (recorder.Completes [.putText window (text ++ more)] →
      recorder.Completes [.putText window more, .putText window text] →
        left [.putText window (text ++ more)] =
          left [.putText window more, .putText window text]) ∧
    (∀ call, call.WritesTo window → recorder.Completes [call] →
      ∃ cursor, left [call] = some { pane with cursor } ∧
        cursor.row.toNat =
          min (pane.cursor.row.toNat +
            (pane.cursor.col.toNat + call.letters) / max pane.size.cols.toNat 1)
            (pane.size.rows.toNat - 1) ∧
        cursor.col.toNat = (pane.cursor.col.toNat + call.letters) % max pane.size.cols.toNat 1 ∧
        cursor.col.toNat < max pane.size.cols.toNat 1 ∧
        cursor.row.toNat ≤ pane.size.rows.toNat - 1) := by
  intro left
  have whole (written : String) (completes : recorder.Completes [.putText window written]) :
      left [.putText window written] = some (pane.advance written.length) :=
    found_of_call found rfl completes
  refine ⟨?_, ?_, ?_, ?_⟩
  · intro disarmed calls writes
    exact (completes_of_disarmed found disarmed writes).1
  · intro nonempty completes singly
    rw [whole text completes]
    cases characters : spelled window text with
    | nil =>
        have none_left := lettersOf_spelled window text
        rw [characters] at none_left
        exact absurd (String.length_eq_zero_iff.mp none_left.symm) nonempty
    | cons last earlier =>
        have writes := writesTo_of_mem_spelled window text
        rw [characters] at writes singly
        have reached := found_of_completes found writes singly
        rw [← characters, lettersOf_spelled] at reached
        rw [← characters]
        exact reached.symm
  · intro completes apart
    have writes : ∀ call ∈ [Call.putText window more, .putText window text],
        call.WritesTo window :=
      List.forall_mem_cons.mpr ⟨rfl, List.forall_mem_singleton.mpr rfl⟩
    have reached := found_of_completes found writes apart
    have length : lettersOf [Call.putText window more, .putText window text] =
        (text ++ more).length := by
      rw [String.length_append]
      exact congrArg (· + more.length) (Nat.zero_add text.length)
    rw [length] at reached
    exact (whole _ completes).trans reached.symm
  · intro call writes completes
    refine ⟨(pane.advance call.letters).cursor, ?_, pane.toNat_row_advance call.letters,
      pane.toNat_col_advance call.letters, pane.col_advance_lt call.letters,
      pane.row_advance_le call.letters⟩
    exact found_of_call found writes completes

/-- A window without columns, and a cursor outside of it. Every character goes to a row of its own,
and the first one skips the columns that are not there. -/
theorem letters_without_columns :
    let pane : Pane := { origin := ⟨1, 4⟩, size := ⟨9, 0⟩, cursor := ⟨0, 3⟩ }
    let recorder : Recorder := { screen := ⟨4, 8⟩, panes := (Panes.ofScreen ⟨4, 8⟩).add pane }
    let texts : List Call := [.putText 1 "c", .putText 1 "ab"]
    recorder.Completes [.putText 1 "abc"] ∧
    recorder.Completes texts ∧
    recorder.Completes (spelled 1 "abc") ∧
    (recorder.replay [.putText 1 "abc"]).2.panes.get? 1 =
      some { pane with cursor := ⟨6, 0⟩ } ∧
    (recorder.replay texts).2.panes.get? 1 = some { pane with cursor := ⟨6, 0⟩ } ∧
    (recorder.replay (spelled 1 "abc")).2.panes.get? 1 = some { pane with cursor := ⟨6, 0⟩ } := by
  intro pane recorder texts
  have found : recorder.panes.get? 1 = some pane := rfl
  rcases text_advances_as_characters found "abc" "" with ⟨completes, singly, _, _⟩
  rcases text_advances_as_characters found "ab" "c" with ⟨_, _, parts, _⟩
  have whole : recorder.Completes [.putText 1 "abc"] := completes rfl _ (by simp [Call.WritesTo])
  have apart : recorder.Completes texts := completes rfl _ (by simp [texts, Call.WritesTo])
  have letters : recorder.Completes (spelled 1 "abc") :=
    completes rfl _ (writesTo_of_mem_spelled 1 "abc")
  have reckoned : (recorder.replay [.putText 1 "abc"]).2.panes.get? 1 =
      some { pane with cursor := ⟨6, 0⟩ } := by decide +kernel
  refine ⟨whole, apart, letters, reckoned, ?_, ?_⟩
  · exact (parts whole apart).symm.trans reckoned
  · exact (singly (by decide) whole letters).symm.trans reckoned

end Recorder

end TerminalSession
