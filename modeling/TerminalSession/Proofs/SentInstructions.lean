import TerminalSession.Proofs.ScreenWork

/-! # Instructions as far as the output takes them

Drawing sends a list of instructions that is known before it starts. What the output gains is all of
them, or, if it gets full, the first of them and a part of the next. -/

namespace TerminalSession.Screen

/-- What an output has gained that got full before the last of these instructions was sent: the
first of them, and a part of the next. -/
inductive BrokenOff : List Instruction → List Written → Prop
  | here {instruction : Instruction} (bytes : Nat) (rest : List Instruction)
      (short : bytes < instruction.text.utf8ByteSize) :
      BrokenOff (instruction :: rest) [.cut instruction bytes]
  | later {instruction : Instruction} {rest : List Instruction} {gained : List Written}
      (broken : BrokenOff rest gained) :
      BrokenOff (instruction :: rest) (.whole instruction :: gained)

namespace BrokenOff

variable {first second : List Instruction} {gained : List Written}

theorem append_right (broken : BrokenOff first gained) : BrokenOff (first ++ second) gained := by
  induction broken with
  | here _ _ short => exact .here _ _ short
  | later _ induction => exact .later induction

theorem append_left (broken : BrokenOff second gained) :
    BrokenOff (first ++ second) (first.map .whole ++ gained) := by
  induction first with
  | nil => exact broken
  | cons instruction rest induction => exact .later induction

theorem of_append (broken : BrokenOff (first ++ second) gained) :
    BrokenOff first gained ∨
      ∃ rest, gained = first.map .whole ++ rest ∧ BrokenOff second rest := by
  induction first generalizing gained with
  | nil => exact .inr ⟨gained, rfl, broken⟩
  | cons instruction more induction =>
      cases broken with
      | here bytes _ short => exact .inl (.here bytes more short)
      | later broken =>
          rcases induction broken with inFirst | inSecond
          · exact .inl (.later inFirst)
          · rcases inSecond with ⟨rest, rfl, later⟩
            exact .inr ⟨rest, rfl, later⟩

end BrokenOff

def charactersOf (gained : List Written) : List Char := gained.flatMap fun part => part.text.toList

@[simp] theorem charactersOf_append (first second : List Written) :
    charactersOf (first ++ second) = charactersOf first ++ charactersOf second :=
  List.flatMap_append

theorem charactersOf_whole (instruction : Instruction) (rest : List Written) :
    charactersOf (.whole instruction :: rest) = instruction.text.toList ++ charactersOf rest := rfl

theorem charactersOf_cut (instruction : Instruction) (bytes : Nat) :
    charactersOf [.cut instruction bytes] = cutText instruction.text.toList bytes := by
  rw [charactersOf, List.flatMap_singleton, Written.text, String.toList_ofList]

structure Output.Gains (before : Output) (gained : List Written) (after : Output) : Prop where
  written : after.written = gained.reverse ++ before.written
  room : before.room = none → after.room = none

namespace Output.Gains

variable {before middle after : Output} {first second gained : List Written}

theorem refl (output : Output) : output.Gains [] output := ⟨rfl, id⟩

theorem trans (one : before.Gains first middle) (other : middle.Gains second after) :
    before.Gains (first ++ second) after where
  written := by rw [other.written, one.written, List.reverse_append, List.append_assoc]
  room := fun unlimited => other.room (one.room unlimited)

theorem text (gains : before.Gains gained after) :
    after.text.toList = before.text.toList ++ charactersOf gained := by
  simp only [Output.text, gains.written, List.reverse_append, List.reverse_reverse, List.map_append,
    String.toList_join, List.flatMap_append, charactersOf, List.flatMap_map]

end Output.Gains

section

variable {start : Screen} {returned : Unit → Screen → Prop} {failed : Fault → Screen → Prop}

theorem ends_found_pane {α : Type} {window : Handle} {pane : Pane} {next : Pane → Work α}
    {returned : α → Screen → Prop} (found : start.panes.get? window = some pane) :
    Ends (Screen.pane window >>= next) start returned failed ↔
      Ends (next pane) start returned failed := by
  simp only [Screen.pane, bind_assoc, ends_bind, ends_get, found, ends_pure]

/-- An instruction is sent, or the output has no room for all of it. -/
theorem ends_write_gains {instruction : Instruction}
    (whole : ∀ output, start.device.output.Gains [.whole instruction] output →
      returned () { start with device.output := output })
    (short : ∀ bytes output, bytes < instruction.text.utf8ByteSize →
      start.device.output.room ≠ none → start.device.output.Gains [.cut instruction bytes] output →
      failed (.device .outputFull) { start with device.output := output }) :
    Ends (write instruction) start returned failed := by
  unfold Ends write Output.write
  cases room : start.device.output.room with
  | none => exact whole _ ⟨rfl, fun _ => rfl⟩
  | some left =>
      have limited : start.device.output.room ≠ none := by simp [room]
      by_cases fits : instruction.text.utf8ByteSize ≤ left
      · simp only [fits, if_true]
        exact whole _ ⟨rfl, fun unlimited => absurd unlimited limited⟩
      · simp only [fits, if_false]
        exact short left _ (Nat.lt_of_not_le fits) limited
          ⟨rfl, fun unlimited => absurd unlimited limited⟩

theorem ends_writeAll {instructions : List Instruction}
    (whole : ∀ output, start.device.output.Gains (instructions.map .whole) output →
      returned () { start with device.output := output })
    (short : ∀ gained output, BrokenOff instructions gained → start.device.output.room ≠ none →
      start.device.output.Gains gained output →
      failed (.device .outputFull) { start with device.output := output }) :
    Ends (writeAll instructions) start returned failed := by
  induction instructions generalizing start with
  | nil => exact whole start.device.output (.refl _)
  | cons instruction rest induction =>
      change Ends (write instruction >>= fun _ => writeAll rest) start returned failed
      rw [ends_bind]
      apply ends_write_gains
      · intro output first
        apply induction
        · intro last second
          exact whole last (first.trans second)
        · intro gained last broken limited second
          apply short _ last (.later broken) _ (first.trans second)
          intro unlimited
          exact limited (first.room unlimited)
      · intro bytes output cut limited gains
        exact short _ output (.here bytes rest cut) limited gains

theorem ends_setRendition {rendition : Rendition} :
    Ends (setRendition rendition) start returned failed ↔
      Ends (writeAll (renditionInstructions start.pairs rendition)) start returned failed := by
  rw [setRendition, ends_bind, ends_get]

theorem writeAll_append (first second : List Instruction) :
    writeAll (first ++ second) = (do
      writeAll first
      writeAll second) := List.forM_append

theorem ends_drawing {rendition : Rendition} {instructions : List Instruction} :
    Ends (do
      setRendition rendition
      writeAll instructions) start returned failed ↔
      Ends (writeAll (renditionInstructions start.pairs rendition ++ instructions)) start returned
        failed := by
  rw [writeAll_append, ends_bind, ends_bind, ends_setRendition]

end

/-! ## What work and calls send -/

variable {α : Type} {instructions : List Instruction}

def Sends (instructions : List Instruction) (work : Work α) (start : Screen) : Prop :=
  Ends work start
    (fun _ stop => start.device.output.Gains (instructions.map .whole) stop.device.output)
    (fun _ stop => start.device.output.room ≠ none ∧
      ∃ gained, BrokenOff instructions gained ∧ start.device.output.Gains gained stop.device.output)

theorem sends_writeAll (instructions : List Instruction) (start : Screen) :
    Sends instructions (writeAll instructions) start := by
  apply ends_writeAll
  · intro _ gains
    exact gains
  · intro gained _ broken limited gains
    exact ⟨limited, gained, broken, gains⟩

theorem sends_drawing (rendition : Rendition) (instructions : List Instruction) (start : Screen) :
    Sends (renditionInstructions start.pairs rendition ++ instructions) (do
      setRendition rendition
      writeAll instructions) start :=
  ends_drawing.mpr (sends_writeAll _ start)

theorem sends_found_pane {window : Handle} {pane : Pane} {start : Screen} {next : Pane → Work α}
    (found : start.panes.get? window = some pane) :
    Sends instructions (Screen.pane window >>= next) start ↔ Sends instructions (next pane) start :=
  ends_found_pane found

theorem sends_write_bind {instruction : Instruction} {start : Screen} {next : Work α}
    (rest : ∀ output, Sends instructions next { start with device.output := output }) :
    Sends (instruction :: instructions) (do
      write instruction
      next) start := by
  unfold Sends
  rw [ends_bind]
  apply ends_write_gains
  · intro output first
    apply (rest output).mono
    · intro _ _ second
      exact first.trans second
    · intro _ _ ⟨limited, gained, broken, second⟩
      exact ⟨limited ∘ first.room, _, .later broken, first.trans second⟩
  · intro bytes output short limited gains
    exact ⟨limited, _, .here bytes instructions short, gains⟩

/-- A call has sent these instructions. With enough room in the output it succeeds. However it
ends, the output has gained all of them if it succeeded, and if not, the first part of them. -/
structure Delivered (instructions : List Instruction) (before : Screen) (reply : Reply Screen α) :
    Prop where
  unlimited : before.device.output.room = none → reply.answer.isOk = true
  whole : reply.answer.isOk = true →
    before.device.output.Gains (instructions.map .whole) reply.terminal.device.output
  broken : reply.answer.isOk = false → ∃ gained, BrokenOff instructions gained ∧
    before.device.output.Gains gained reply.terminal.device.output

theorem delivered_of_sends {call : Call} {screen : Screen}
    (sends : Sends instructions (answer call) screen) :
    Delivered instructions screen (perform call screen) := by
  apply perform_rule (motive := fun reply => Delivered instructions screen reply)
  apply sends.mono
  · intro given stop gains
    exact ⟨fun _ => rfl, fun _ => gains, fun failed => absurd failed.symm Bool.false_ne_true⟩
  · intro fault stop ⟨limited, gained, broken, gains⟩
    exact ⟨fun unlimited => absurd unlimited limited, fun done => absurd done Bool.false_ne_true,
      fun _ => ⟨gained, broken, gains⟩⟩

end TerminalSession.Screen
