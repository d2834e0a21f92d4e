import Mathlib.Data.List.Basic
import TerminalSession.Screen.Device

/-! # Lines that are being typed

A queue is two lists, and codes only ever move from the end of the line into the codes that are
ready. So every change of a queue is told by what was typed and what moved. While keys are delivered
line by line only whole lines move: each of them is ended by a new line, and the rest holds none. -/

namespace TerminalSession.Screen.InputQueue

variable {queue first second third : InputQueue} {cbreak : Bool}

@[simp] theorem accept_nil (queue : InputQueue) (cbreak : Bool) :
    queue.accept cbreak [] = queue := by
  cases cbreak with
  | false => rfl
  | true => simp only [accept, if_true, List.append_nil]

theorem accept_append (queue : InputQueue) (cbreak : Bool) (codes more : List Code) :
    queue.accept cbreak (codes ++ more) = (queue.accept cbreak codes).accept cbreak more := by
  cases cbreak with
  | false => simp only [accept, Bool.false_eq_true, if_false, List.foldl_append]
  | true => simp only [accept, if_true, List.append_assoc]

structure Tidy (cbreak : Bool) (queue : InputQueue) : Prop where
  unfinished : newline ∉ queue.line
  noLine : cbreak = true → queue.line = []

def WholeLines (codes : List Code) : Prop := ∀ code ∈ codes.getLast?, code = newline

theorem WholeLines.append {codes more : List Code} (lines : WholeLines codes)
    (others : WholeLines more) : WholeLines (codes ++ more) := by
  intro code last
  rw [List.getLast?_append] at last
  cases ending : more.getLast? with
  | none =>
      rw [ending] at last
      exact lines code last
  | some latest =>
      rw [ending] at last
      cases last
      exact others code ending

/-- Codes were typed at the end of the line, and others moved from its start to the ready codes. -/
structure Moves (moved typed : List Code) (before after : InputQueue) : Prop where
  ready : after.ready = before.ready ++ moved
  line : before.line ++ typed = moved ++ after.line

theorem Moves.trans {moved typed more later : List Code} (before : Moves moved typed first second)
    (after : Moves more later second third) :
    Moves (moved ++ more) (typed ++ later) first third where
  ready := by
    rw [after.ready, before.ready, List.append_assoc]
  line := by
    rw [← List.append_assoc, before.line, List.append_assoc, after.line, List.append_assoc]

/-- Reads that took codes from the start of the ready codes returned them in the order in which they
were typed. -/
theorem Moves.in_order {moved typed more returned given : List Code} {after : InputQueue}
    (moves : Moves moved more queue { after with ready := given ++ after.ready })
    (order : returned ++ queue.ready ++ queue.line = typed) :
    returned ++ given ++ after.ready ++ after.line = typed ++ more :=
  calc returned ++ given ++ after.ready ++ after.line
    _ = returned ++ (given ++ after.ready) ++ after.line := by simp only [List.append_assoc]
    _ = returned ++ (queue.ready ++ moved) ++ after.line := by rw [← moves.ready]
    _ = returned ++ queue.ready ++ (moved ++ after.line) := by simp only [List.append_assoc]
    _ = returned ++ queue.ready ++ (queue.line ++ more) := by rw [← moves.line]
    _ = typed ++ more := by
        rw [← order]
        simp only [List.append_assoc]

theorem release_moves (queue : InputQueue) : Moves queue.line [] queue queue.release where
  ready := rfl
  line := rfl

theorem type_moves (queue : InputQueue) (code : Code) :
    ∃ moved, WholeLines moved ∧ Moves moved [code] queue (queue.type code) := by
  by_cases ends : code = newline
  · refine ⟨queue.line ++ [code], ?_, ?_⟩
    · intro last member
      rw [List.getLast?_concat] at member
      cases member
      exact ends
    · simp only [type, ends, if_true]
      exact ⟨rfl, (List.append_nil _).symm⟩
  · refine ⟨[], ?_, ?_⟩
    · intro last member
      cases member
    · simp only [type, ends, if_false]
      exact ⟨(List.append_nil _).symm, rfl⟩

theorem foldl_type_moves (queue : InputQueue) (codes : List Code) :
    ∃ moved, WholeLines moved ∧ Moves moved codes queue (codes.foldl type queue) := by
  induction codes generalizing queue with
  | nil =>
      refine ⟨[], ?_, (List.append_nil _).symm, List.append_nil _⟩
      intro last member
      cases member
  | cons code rest induction =>
      rcases type_moves queue code with ⟨moved, lines, moves⟩
      rcases induction (queue.type code) with ⟨more, others, later⟩
      exact ⟨moved ++ more, lines.append others, moves.trans later⟩

theorem accept_moves (tidy : Tidy cbreak queue) (codes : List Code) :
    ∃ moved, (cbreak = false → WholeLines moved) ∧
      Moves moved codes queue (queue.accept cbreak codes) := by
  cases cbreak with
  | false =>
      rcases foldl_type_moves queue codes with ⟨moved, lines, moves⟩
      exact ⟨moved, fun _ => lines, moves⟩
  | true =>
      refine ⟨codes, by simp, rfl, ?_⟩
      simp only [accept, if_true, tidy.noLine rfl, List.nil_append, List.append_nil]

theorem accept_eq_self_iff (queue : InputQueue) (cbreak : Bool) (codes : List Code) :
    queue.accept cbreak codes = queue ↔ codes = [] := by
  constructor
  · intro same
    cases cbreak with
    | true => exact List.append_right_eq_self.mp (congrArg ready same)
    | false =>
        rcases foldl_type_moves queue codes with ⟨moved, _, moves⟩
        have unchanged : codes.foldl type queue = queue := same
        rw [unchanged] at moves
        have nothing : moved = [] := List.append_right_eq_self.mp moves.ready.symm
        have line := moves.line
        rw [nothing, List.nil_append] at line
        exact List.append_right_eq_self.mp line
  · rintro rfl
    exact accept_nil queue cbreak

theorem newline_not_mem_line_type (unfinished : newline ∉ queue.line) (code : Code) :
    newline ∉ (queue.type code).line := by
  by_cases ends : code = newline
  · simp [type, ends, release]
  · simp [type, ends, unfinished, Ne.symm ends]

theorem accept_tidy (tidy : Tidy cbreak queue) (codes : List Code) :
    Tidy cbreak (queue.accept cbreak codes) := by
  cases cbreak with
  | false =>
      refine ⟨?_, by simp⟩
      have unfinished : newline ∉ queue.line := tidy.unfinished
      simp only [accept, Bool.false_eq_true, if_false]
      clear tidy
      induction codes generalizing queue with
      | nil => exact unfinished
      | cons code rest induction =>
          exact induction (newline_not_mem_line_type unfinished code)
  | true => exact ⟨tidy.unfinished, tidy.noLine⟩

end TerminalSession.Screen.InputQueue
