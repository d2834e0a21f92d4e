import TerminalSession.Proofs.ScreenClosing
import TerminalSession.Proofs.ShownKeys

/-! # The terminal is given back

However the demonstration ends, the last that is written is what restores the terminal, and it is
written once. Up to there the output is what a session starts with and tame instructions. -/

namespace TerminalSession

namespace Screen

def opening : List Instruction := [.enterAlternateScreen, .clearAll, .moveTo .origin]

structure Underway (screen : Screen) : Prop where
  isOpen : screen.isOpen = true
  owner : screen.ownsDevice = true
  unlimited : screen.Unlimited
  written : ∃ body : List Instruction, (∀ instruction ∈ body, instruction.Tame) ∧
    screen.device.output.written = ((opening ++ body).map Written.whole).reverse

structure Untouched (screen : Screen) : Prop where
  isOpen : screen.isOpen = false
  written : screen.device.output.written = []

variable {start stop : Screen}

theorem Underway.adds (underway : Underway start) (adds : Adds start stop) : Underway stop := by
  rcases underway.written with ⟨body, tame, written⟩
  rcases adds.written underway.unlimited with ⟨unlimited, sent, tameToo, later⟩
  refine ⟨adds.isOpen.trans underway.isOpen, adds.owner.trans underway.owner, unlimited,
    body ++ sent, tame_append tame tameToo, ?_⟩
  rw [later, written, ← List.reverse_append, ← List.map_append, List.append_assoc]

theorem Underway.asked {start stop : Logged Screen} (underway : Underway start.terminal)
    (asked : AskedOnly Call.Tame start stop) : Underway stop.terminal :=
  asked.preserves underway fun _ screen tame before => before.adds (adds_perform tame screen)

/-! ## Starting -/

def Started (device : Device) (screen : Screen) : Prop :=
  device.switchRawMode.1.isOk = true ∧ Underway screen

def Unstarted (device : Device) (screen : Screen) : Prop :=
  device.switchRawMode.1.isOk = false ∧ Untouched screen

def Begins {ε α : Type} (device : Device) (result : Except ε α) (screen : Screen) : Prop :=
  match result with
  | .ok _ => Started device screen
  | .error _ => Started device screen ∨ Unstarted device screen

/-! A device whose input can be switched but that tells no size is left as it is when the session is
refused: on the alternate screen, and with no session that anybody would close. A terminal tells its
size, and then there is nothing between the two. -/

theorem openSession_unsized {device : Device} (fresh : device.output = {})
    (switched : device.switchRawMode.1.isOk = true) (unsized : device.size = none) :
    let reply := perform .openSession (interactive device)
    reply.answer = .error (.device .notTerminal) ∧
      reply.terminal.device.output.written = (opening.map Written.whole).reverse ∧
      reply.terminal.abandon = reply.terminal := by
  rcases device with ⟨output, events, size, switches⟩
  cases fresh
  cases unsized
  cases switches with
  | false =>
      rcases events with _ | ⟨_ | _ | _, events⟩ <;> cases switched
  | true =>
      rcases events with _ | ⟨occurrence, events⟩
      · exact ⟨rfl, rfl, rfl⟩
      · cases occurrence with
        | failure => cases switched
        | idle | event => exact ⟨rfl, rfl, rfl⟩

theorem openSession_begins {device : Device} (fresh : device.output = {})
    (sized : device.switches = device.size.isSome) :
    Ends openSession (interactive device)
      (fun _ stop => Started device stop) (fun _ stop => Unstarted device stop) := by
  have started : ∀ {stop : Screen}, stop.isOpen = true → stop.ownsDevice = true →
      stop.device.output.room = none → stop.device.output.flushesLeft = none →
      stop.device.output.written = (opening.map Written.whole).reverse → Underway stop :=
    fun isOpen owner room flushes written =>
      ⟨isOpen, owner, ⟨room, flushes⟩, [], List.forall_mem_nil _, written⟩
  rcases device with ⟨output, events, size, switches⟩
  cases fresh
  have both : switches = size.isSome := sized
  subst both
  cases size with
  | none =>
      rcases events with _ | ⟨occurrence, events⟩
      · exact ⟨rfl, rfl, rfl⟩
      · cases occurrence <;> exact ⟨rfl, rfl, rfl⟩
  | some size =>
      rcases events with _ | ⟨occurrence, events⟩
      · exact ⟨rfl, started rfl rfl rfl rfl rfl⟩
      · cases occurrence with
        | failure => exact ⟨rfl, rfl, rfl⟩
        | idle | event => exact ⟨rfl, started rfl rfl rfl rfl rfl⟩

theorem perform_openSession_begins {device : Device} (fresh : device.output = {})
    (sized : device.switches = device.size.isSome) :
    let reply := perform .openSession (interactive device)
    Begins device reply.answer reply.terminal := by
  apply perform_rule (motive := fun reply => Begins device reply.answer reply.terminal)
  apply Ends.mono (openSession_begins fresh sized)
  · intro _ _ begun
    exact begun
  · intro _ _ unstarted
    exact .inr unstarted

end Screen

namespace Machine

open Exchange

variable {log : List Log.Entry} {device : Screen.Device}

theorem openSession_begins (fresh : device.output = {})
    (sized : device.switches = device.size.isSome) :
    Ends openSession { terminal := Screen.interactive device, log }
      (fun _ host => Screen.Started device host.terminal)
      (fun _ host => Screen.Started device host.terminal ∨
        Screen.Unstarted device host.terminal) := by
  have begins := Screen.perform_openSession_begins fresh sized
  rw [openSession_eq, ends_bind]
  apply ends_call
  · intro screen terminal notes log replied
    have prepared : AsksOnly Call.Tame (prepareScreen screen : Exchange Screen Bindings) :=
      prepareScreen_asksOnly trivial trivial trivial trivial
    have opened : Screen.perform .openSession (Screen.interactive device) =
        ⟨.ok screen, terminal, notes⟩ := replied
    rw [opened] at begins
    apply (prepared ⟨terminal, log⟩).mono
    · intro _ host asked
      exact ⟨begins.1, begins.2.asked asked⟩
    · intro _ host asked
      exact .inl ⟨begins.1, begins.2.asked asked⟩
  · intro fault terminal notes log replied
    have refused : Screen.perform .openSession (Screen.interactive device) =
        ⟨.error fault, terminal, notes⟩ := replied
    rw [refused] at begins
    exact begins

theorem execute_init_begins (fresh : device.output = {})
    (sized : device.switches = device.size.isSome) (log : List Log.Entry)
    (options : SessionOptions) :
    let started := execute ⟨{ terminal := Screen.interactive device, log }, .inactive, none⟩
      (.init options)
    Screen.Begins device started.1 started.2.terminal := by
  intro started
  apply execute_rule ⟨{ terminal := Screen.interactive device, log }, .inactive, none⟩
    (.init options) (motive := fun result => Screen.Begins device result.1 result.2.terminal)
  · intro refusal refused
    cases refused
  · intro next log _
    rw [dispatch, ends_bind]
    exact openSession_begins fresh sized

end Machine

/-! ## Ending

All that restores the terminal is written, even where its input cannot be switched back. -/

namespace Screen

theorem written_afterClosing (opened : start.isOpen = true) (owned : start.ownsDevice = true)
    (unlimited : start.Unlimited) :
    (afterClosing start).device.output.written =
      ((restoring true).map Written.whole).reverse ++ start.device.output.written := by
  -- Nothing limits the output, so only switching the input can fail, and by then all is written.
  rcases start with ⟨⟨⟨written, room, flushes, left⟩, events, deviceSize, switches⟩⟩
  cases opened
  cases owned
  rcases unlimited with ⟨room, flushes⟩
  cases room
  cases flushes
  rcases events with _ | ⟨occurrence, events⟩
  · cases switches <;> rfl
  · cases occurrence <;> cases switches <;> rfl

variable {live : Live Screen}

theorem abandon_afterClosing (screen : Screen) :
    (afterClosing screen).abandon = afterClosing screen :=
  abandon_of_closed (isOpen_afterClosing screen)

/-- A live session that is given up leaves a screen that was closed once, when the screen is given
up as well. -/
theorem abandon_live (opened : live.machine.terminal.isOpen = true)
    (owned : live.machine.terminal.ownsDevice = true) :
    live.abandon.terminal.abandon = afterClosing live.machine.terminal := by
  rw [Live.terminal_abandon]
  cases live.machine.phase.isActive with
  | true => exact abandon_afterClosing _
  | false => exact abandon_of_open opened owned

theorem deinit_live (opened : live.machine.terminal.isOpen = true)
    (owned : live.machine.terminal.ownsDevice = true) :
    live.deinit.2.terminal.abandon = afterClosing live.machine.terminal := by
  cases active : live.machine.phase.isActive with
  | true =>
      rw [(deinit_closes_once live active).1]
      exact abandon_afterClosing _
  | false =>
      -- Without a session the closing is refused, and the session is abandoned.
      have same : live.deinit.2 = live.abandon := by
        rcases live with ⟨⟨host, phase, bindings⟩⟩
        cases phase with
        | inactive => rfl
        | active session => cases active
      rw [same]
      exact abandon_live opened owned

end Screen

/-! ## Demonstrations -/

namespace Demo

open Screen

/-- What a demonstration writes: nothing if no session can be started, and otherwise what starts a
session, what is drawn in it, and what restores the terminal. -/
inductive Demonstrates (device : Device) : List Instruction → Prop
  | unstarted (refused : device.switchRawMode.1.isOk = false) : Demonstrates device []
  | closed {body : List Instruction} (switched : device.switchRawMode.1.isOk = true)
      (tame : ∀ instruction ∈ body, instruction.Tame) :
      Demonstrates device (opening ++ body ++ restoring true)

structure Remains (device : Device) (sent : List Instruction) (stop : Screen) : Prop where
  isOpen : stop.isOpen = false
  written : stop.device.output.written = (sent.map Written.whole).reverse
  demonstrates : Demonstrates device sent

variable {device : Device}

theorem remains_of_started {last : Screen} (started : Started device last) :
    ∃ sent, Remains device sent (afterClosing last) := by
  rcases started with ⟨switched, underway⟩
  rcases underway.written with ⟨body, tame, written⟩
  refine ⟨opening ++ body ++ restoring true, isOpen_afterClosing last, ?_, .closed switched tame⟩
  rw [written_afterClosing underway.isOpen underway.owner underway.unlimited, written,
    ← List.reverse_append, ← List.map_append]

/-- On every path the session is closed, and what the closing leaves stays. -/
theorem run_remains (settings : Settings) (fresh : device.output = {})
    (sized : device.switches = device.size.isSome) (log : List Log.Entry) :
    ∃ sent, Remains device sent
      (run settings { terminal := interactive device, log }).2.terminal := by
  have begins := Machine.execute_init_begins fresh sized log settings.options
  rcases executed : Machine.execute ⟨{ terminal := interactive device, log }, .inactive, none⟩
    (.init settings.options) with ⟨result, machine⟩
  rw [executed] at begins
  cases result with
  | error failure =>
      have denied : Live.init { terminal := interactive device, log } settings.options =
          .error (failure, machine.host) := by
        rw [Live.init, executed]
      rw [run, denied]
      change ∃ sent, Remains device sent machine.terminal.abandon
      rcases begins with started | ⟨refused, untouched⟩
      · rw [abandon_of_open started.2.isOpen started.2.owner]
        exact remains_of_started started
      · rw [abandon_of_closed untouched.isOpen]
        exact ⟨[], untouched.isOpen, untouched.written, .unstarted refused⟩
  | ok outcome =>
      have live : Live.init { terminal := interactive device, log } settings.options =
          .ok ⟨machine⟩ := by
        rw [Live.init, executed]
      rw [run, live]
      have started := (converse_asks settings ⟨machine⟩).imp fun after asked =>
        (⟨begins.1, begins.2.asked asked⟩ : Started device after.machine.terminal)
      unfold Ends at started
      cases conversed : converse settings ⟨machine⟩ with
      | error failure after =>
          rw [conversed] at started
          simp only [conversed]
          change ∃ sent, Remains device sent after.abandon.terminal.abandon
          rw [abandon_live started.2.isOpen started.2.owner]
          exact remains_of_started started
      | ok _ after =>
          rw [conversed] at started
          simp only [conversed]
          have closed := deinit_live started.2.isOpen started.2.owner
          rcases given : after.deinit with ⟨result, host⟩
          rw [given] at closed
          have remains : ∃ sent, Remains device sent host.terminal.abandon := by
            rw [closed]
            exact remains_of_started started
          cases result with
          | ok _ => exact remains
          | error failure => exact remains

/-! ## The output of a demonstration -/

theorem sequence?_of_tame {final : Char} (switch : final = 'h' ∨ final = 'l')
    {instruction : Instruction} (tame : instruction.Tame) :
    instruction.sequence? ≠ some ("?1049", final) := by
  rcases switch with rfl | rfl <;> cases instruction <;>
    first | exact tame.elim | simp [Instruction.sequence?]

namespace Demonstrates

variable {sent : List Instruction}

theorem neat (demonstrates : Demonstrates device sent) :
    ∀ instruction ∈ sent, instruction.Neat := by
  have ends : ∀ instruction ∈ opening ++ restoring true, instruction.Neat := by
    intro instruction member text same
    rw [same] at member
    simp [opening, restoring] at member
  cases demonstrates with
  | unstarted refused => exact List.forall_mem_nil _
  | closed switched tame =>
      intro instruction member
      rw [List.append_assoc] at member
      rcases List.mem_append.mp member with first | later
      · exact ends instruction (List.mem_append_left _ first)
      · rcases List.mem_append.mp later with inside | last
        · exact (tame instruction inside).neat
        · exact ends instruction (List.mem_append_right _ last)

theorem switches (demonstrates : Demonstrates device sent) {final : Char}
    (switch : final = 'h' ∨ final = 'l') :
    sent.countP (·.sequence? = some ("?1049", final)) =
      if device.switchRawMode.1.isOk then 1 else 0 := by
  cases demonstrates with
  | unstarted refused =>
      rw [refused]
      rfl
  | @closed body switched tame =>
      have inside : body.countP (·.sequence? = some ("?1049", final)) = 0 := by
        rw [List.countP_eq_zero]
        intro instruction member
        simpa using sequence?_of_tame switch (tame instruction member)
      rw [switched, List.countP_append, List.countP_append, inside]
      rcases switch with rfl | rfl <;> rfl

theorem entered (demonstrates : Demonstrates device sent) :
    occurrences Instruction.enterAlternateScreen.text.toList (textOf sent) =
      if device.switchRawMode.1.isOk then 1 else 0 := by
  have counted := @occurrences_textOf .enterAlternateScreen "?1049" 'h' rfl sent demonstrates.neat
  exact counted.trans (demonstrates.switches (.inl rfl))

theorem left (demonstrates : Demonstrates device sent) :
    occurrences Instruction.leaveAlternateScreen.text.toList (textOf sent) =
      if device.switchRawMode.1.isOk then 1 else 0 := by
  have counted := @occurrences_textOf .leaveAlternateScreen "?1049" 'l' rfl sent demonstrates.neat
  exact counted.trans (demonstrates.switches (.inr rfl))

theorem restored (demonstrates : Demonstrates device sent)
    (switched : device.switchRawMode.1.isOk = true) :
    textOf (restoring true) <:+ textOf sent ∧
      occurrences (textOf (restoring true)) (textOf sent) = 1 := by
  have last : textOf (restoring true) <:+ textOf sent := by
    cases demonstrates with
    | unstarted refused =>
        rw [switched] at refused
        cases refused
    | closed _ tame =>
        rw [textOf_append]
        exact List.suffix_append _ _
  refine ⟨last, Nat.le_antisymm ?_ ?_⟩
  · have whole : textOf (restoring true) =
        textOf [.resetAttributes, .resetColors, .showCursor] ++
          Instruction.leaveAlternateScreen.text.toList := by
      rw [restoring, if_pos rfl, textOf_append]
      exact congrArg _ (List.append_nil _)
    rw [whole]
    apply Nat.le_trans (occurrences_append_le _ _ _)
    rw [demonstrates.left, switched]
    exact Nat.le_refl 1
  · exact occurrences_pos (by decide +kernel) last.isInfix

end Demonstrates

/-- However a demonstration goes on, it comes to an end as if there were no limit to the number of
reads, and its session is closed then. It enters the alternate screen once if the input of the
device can be switched, and not at all otherwise. If it enters it, what restores the terminal comes
last and comes once, and so does leaving the alternate screen. All control characters in the output
start sequences that the screen wrote. -/
theorem demonstration_gives_terminal_back (settings : Settings) (events : List Occurrence)
    (size : Option Size) (log : List Log.Entry) :
    let device : Device := { events, size }
    let stop := (run settings { terminal := interactive device, log }).2.terminal
    let output := stop.device.output.text.toList
    let enter := Instruction.enterAlternateScreen.text.toList
    (∀ live, Converses settings live (converse settings live)) ∧
      stop.isOpen = false ∧
      occurrences enter output = (if device.switchRawMode.1.isOk then 1 else 0) ∧
      (0 < occurrences enter output →
        textOf (restoring true) <:+ output ∧
          occurrences (textOf (restoring true)) output = 1 ∧
          occurrences Instruction.leaveAlternateScreen.text.toList output = 1) ∧
      ∀ front character rest, output = front ++ character :: rest →
        Text.isControl character = true →
          character = Display.escape ∧ ∃ earlier instruction later parameters final,
            stop.device.output.written.reverse =
                (earlier ++ instruction :: later).map Written.whole ∧
              textOf earlier = front ∧
              IsSequence instruction.text.toList parameters final := by
  intro device stop output enter
  rcases run_remains settings (rfl : device.output = {}) rfl log with ⟨sent, remains⟩
  have written : output = textOf sent := toList_text_of_written remains.written
  have entered := remains.demonstrates.entered
  rw [← written] at entered
  refine ⟨converses settings, remains.isOpen, entered, ?_, ?_⟩
  · intro some
    have switched : device.switchRawMode.1.isOk = true := by
      cases switched : device.switchRawMode.1.isOk with
      | true => rfl
      | false =>
          rw [entered, switched] at some
          cases some
    have restored := remains.demonstrates.restored switched
    have left := remains.demonstrates.left
    rw [← written, switched] at left
    rw [← written] at restored
    exact ⟨restored.1, restored.2, left⟩
  · intro front character rest same control
    have sequence := control_starts_sequence remains.demonstrates.neat
      (written.symm.trans same) control
    rcases sequence with
      ⟨start, earlier, instruction, later, parameters, final, split, before, sequence⟩
    refine ⟨start, earlier, instruction, later, parameters, final, ?_, before, sequence⟩
    rw [remains.written, List.reverse_reverse, split]

/-! A control character is typed, then the quit key, and the input cannot be switched back. -/

def stubborn : List Occurrence :=
  [.event (.key ⟨.char (Char.ofNat 7), {}⟩ false), .event (.key ⟨.char 'q', {}⟩ false), .failure]

theorem stubborn_terminal_comes_back :
    ∃ host, run {} { terminal := interactive { events := stubborn, size := some ⟨24, 80⟩ } } =
        (.error { failure := .fault (.device .injectedEvent) }, host) ∧
      let output := host.terminal.device.output.text.toList
      0 < occurrences Instruction.enterAlternateScreen.text.toList output ∧
        occurrences (textOf (restoring true)) output = 1 ∧
        ∃ front, output = front ++ textOf (restoring true) ∧
          ∃ earlier instruction later parameters final,
            host.terminal.device.output.written.reverse =
                (earlier ++ instruction :: later).map Written.whole ∧
              textOf earlier = front ∧ IsSequence instruction.text.toList parameters final := by
  have settled := demonstration_gives_terminal_back {} stubborn (some ⟨24, 80⟩) []
  have failed :
      (run {} { terminal := interactive { events := stubborn, size := some ⟨24, 80⟩ } }).1 =
        .error { failure := .fault (.device .injectedEvent) } := by
    decide +kernel
  rcases finished : run {} { terminal := interactive { events := stubborn, size := some ⟨24, 80⟩ } }
    with ⟨result, host⟩
  simp only [finished] at settled failed
  rcases settled with ⟨_, _, count, restored, sequences⟩
  have entered :
      0 < occurrences Instruction.enterAlternateScreen.text.toList
        host.terminal.device.output.text.toList := by
    rw [count]
    exact Nat.zero_lt_one
  rcases restored entered with ⟨⟨front, same⟩, once, _⟩
  have closing : textOf (restoring true) = Display.escape :: (textOf (restoring true)).tail := by
    decide +kernel
  have sequence := sequences front Display.escape _ (closing ▸ same.symm) (by decide)
  rw [failed]
  exact ⟨host, rfl, entered, once, front, same.symm, sequence.2⟩

end Demo

end TerminalSession
