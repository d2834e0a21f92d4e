import Mathlib.Logic.Function.Iterate
import TerminalSession.Live
import TerminalSession.Proofs.AskedCalls
import TerminalSession.Proofs.ScreenWork

/-! # Closing a session

A session counts as ended from the moment its closing starts. So the first attempt to close it is
the only one that writes anything: if it succeeds the terminal is restored, and if it fails halfway,
every further attempt reports success and leaves the terminal as it is. -/

namespace TerminalSession

namespace Screen

def restoring (ownsDevice : Bool) : List Instruction :=
  [.resetAttributes, .resetColors, .showCursor] ++
    if ownsDevice then [.leaveAlternateScreen] else []

/-- The terminal was given back: all that restores it was written after what was there before, and
flushed, and the input of a device of one's own was switched back. -/
structure Restored (before after : Screen) : Prop where
  written : after.device.output.written =
    ((restoring before.ownsDevice).map Written.whole).reverse ++ before.device.output.written
  flushed : before.device.output.flushes < after.device.output.flushes
  switched : before.ownsDevice = true → before.device.switchRawMode.1 = .ok ()

def afterClosing (screen : Screen) : Screen := (perform .closeSession screen).terminal

/-! ## What arrives at the output

Work that fails halfway promises nothing, so only the case of success is followed. -/

def Achieves {α : Type} (work : Work α) (start : Screen) (done : Screen → Prop) : Prop :=
  Ends work start (fun _ stop => done stop) (fun _ _ => True)

/-- Between the two screens these instructions were written, and so many flushes succeeded. -/
structure Sent (instructions : List Instruction) (flushes : Nat) (before after : Screen) :
    Prop where
  written : after.device.output.written =
    (instructions.map Written.whole).reverse ++ before.device.output.written
  flushed : after.device.output.flushes = before.device.output.flushes + flushes
  events : after.device.events = before.device.events
  switches : after.device.switches = before.device.switches
  owner : after.ownsDevice = before.ownsDevice

section

variable {start middle stop : Screen} {α β : Type}

theorem Achieves.mono {work : Work α} {half done : Screen → Prop}
    (achieved : Achieves work start half) (implies : ∀ stop, half stop → done stop) :
    Achieves work start done := by
  apply Ends.mono achieved
  · intro _
    exact implies
  · intro _ _ failed
    exact failed

theorem Achieves.bind {work : Work α} {next : α → Work β} {half done : Screen → Prop}
    (first : Achieves work start half)
    (second : ∀ value middle, half middle → Achieves (next value) middle done) :
    Achieves (work >>= next) start done := by
  unfold Achieves
  rw [ends_bind]
  apply Ends.mono first
  · intro value middle achieved
    exact second value middle achieved
  · intro _ _ failed
    exact failed

theorem Sent.trans {first second : List Instruction} {flushes more : Nat}
    (before : Sent first flushes start middle) (after : Sent second more middle stop) :
    Sent (first ++ second) (flushes + more) start stop where
  written := by
    rw [after.written, before.written, List.map_append, List.reverse_append, List.append_assoc]
  flushed := by
    rw [after.flushed, before.flushed, Nat.add_assoc]
  events := after.events.trans before.events
  switches := after.switches.trans before.switches
  owner := after.owner.trans before.owner

theorem Sent.switchRawMode {instructions : List Instruction} {flushes : Nat}
    (sent : Sent instructions flushes start stop) :
    stop.device.switchRawMode.1 = start.device.switchRawMode.1 := by
  unfold Device.switchRawMode
  rw [sent.events, sent.switches]
  split <;> rfl

theorem write_achieves (instruction : Instruction) :
    Achieves (write instruction) start (Sent [instruction] 0 start) := by
  apply ends_write
  · intro _
    exact ⟨rfl, rfl, rfl, rfl, rfl⟩
  · intro _
    trivial

theorem flush_achieves : Achieves flush start (Sent [] 1 start) := by
  apply ends_flush
  · intro _
    exact ⟨rfl, rfl, rfl, rfl, rfl⟩
  · trivial

theorem writeAll_achieves (instructions : List Instruction) :
    Achieves (writeAll instructions) start (Sent instructions 0 start) := by
  induction instructions generalizing start with
  | nil => exact ⟨rfl, rfl, rfl, rfl, rfl⟩
  | cons instruction rest induction =>
      change Achieves (write instruction >>= fun _ => writeAll rest) start _
      apply (write_achieves instruction).bind
      intro _ middle first
      apply induction.mono
      intro stop second
      exact first.trans second

theorem switchRawMode_achieves :
    Achieves switchRawMode start fun stop =>
      stop = start ∧ start.device.switchRawMode.1 = .ok () := by
  unfold Achieves Ends switchRawMode
  rcases same : start.device.switchRawMode with ⟨result, device⟩
  cases result with
  | error error => trivial
  | ok _ =>
      have kept : device = start.device := by
        unfold Device.switchRawMode at same
        split at same
        · cases same
        · cases same
        · cases same
          rfl
      exact ⟨by rw [kept], rfl⟩

/-- An attempt to close a session that is open has restored the terminal if it succeeds. -/
theorem closeSession_achieves (opened : start.isOpen = true) :
    Achieves closeSession start (Restored start) := by
  unfold Achieves
  rw [closeSession, ends_bind, ends_get, opened, if_pos rfl, ends_bind, ends_modify]
  apply (writeAll_achieves _).bind
  intro _ middle reset
  unfold Achieves
  rw [ends_bind, ends_get]
  have owner : middle.ownsDevice = start.ownsDevice := reset.owner
  rw [owner]
  cases owns : start.ownsDevice with
  | false =>
      apply flush_achieves.mono
      intro stop flushed
      have sent := reset.trans flushed
      constructor
      · rw [sent.written, restoring, owns]
        rfl
      · rw [sent.flushed]
        exact Nat.lt_succ_self _
      · intro owned
        rw [owns] at owned
        cases owned
  | true =>
      rw [if_pos rfl]
      apply (write_achieves _).bind
      intro _ left written
      apply flush_achieves.bind
      intro _ flushed sent
      have before := (reset.trans written).trans sent
      apply switchRawMode_achieves.bind
      rintro _ _ ⟨rfl, switched⟩
      apply flush_achieves.mono
      intro stop last
      have all := before.trans last
      constructor
      · rw [all.written, restoring, owns]
        rfl
      · rw [all.flushed]
        exact Nat.lt_add_of_pos_right (Nat.succ_pos _)
      · intro _
        rw [← switched]
        exact before.switchRawMode.symm

end

/-! ## How often a session is closed

However an attempt to close a session ends, the session counts as ended afterwards. -/

def OpenAsBefore (before after : Screen) : Prop := after.isOpen = before.isOpen

instance : Std.Refl OpenAsBefore := ⟨fun _ => rfl⟩

instance : IsTrans Screen OpenAsBefore := ⟨fun _ _ _ first second => second.trans first⟩

theorem openAsBefore_output : IgnoresOutput OpenAsBefore := fun _ _ => rfl

theorem isOpen_afterClosing (screen : Screen) : (afterClosing screen).isOpen = false := by
  unfold afterClosing
  apply perform_rule (motive := fun reply => reply.terminal.isOpen = false)
  change Ends closeSession screen _ _
  rw [closeSession, ends_bind, ends_get]
  cases opened : screen.isOpen with
  | false =>
      exact opened
  | true =>
      rw [if_pos rfl, ends_bind, ends_modify]
      exact Leaves.restoring (fun instruction _ => Leaves.write openAsBefore_output instruction)
        (Leaves.flush openAsBefore_output) (Leaves.switchRawMode fun _ _ => rfl)
        { screen with isOpen := false }

/-- Closing without a session does nothing, and says so by succeeding. -/
theorem perform_closeSession_of_closed {screen : Screen} (closed : screen.isOpen = false) :
    perform .closeSession screen = { answer := .ok (), terminal := screen } := by
  have work : answer .closeSession screen = .ok () screen := by
    change (if screen.isOpen then _ else pure () : Work Unit) screen = _
    rw [closed]
    rfl
  simp only [perform, work, notes, closed]
  rfl

theorem perform_closeSession_again (screen : Screen) (attempts : Nat) :
    perform .closeSession (afterClosing^[attempts + 1] screen) =
      { answer := .ok (), terminal := afterClosing screen } := by
  have again : afterClosing (afterClosing screen) = afterClosing screen := by
    rw [afterClosing, perform_closeSession_of_closed (isOpen_afterClosing screen)]
  rw [Function.iterate_succ_apply, Function.iterate_fixed again]
  exact perform_closeSession_of_closed (isOpen_afterClosing screen)

theorem abandon_of_closed {screen : Screen} (closed : screen.isOpen = false) :
    screen.abandon = screen := by
  simp only [abandon, closed, Bool.false_and, Bool.false_eq_true, if_false]

theorem perform_closeSession (screen : Screen) :
    perform .closeSession screen =
      match closeSession screen with
      | .ok _ stop => ⟨.ok (), stop, notes .closeSession screen stop⟩
      | .error fault stop => ⟨.error fault, stop, []⟩ := by
  have same : answer .closeSession screen = closeSession screen := rfl
  unfold perform
  rw [same]
  cases closeSession screen with
  | ok _ stop => rfl
  | error fault stop => rfl

theorem abandon_of_open {screen : Screen} (opened : screen.isOpen = true)
    (owned : screen.ownsDevice = true) : screen.abandon = afterClosing screen := by
  unfold abandon afterClosing
  rw [opened, owned, perform_closeSession]
  cases closeSession screen with
  | ok _ stop => rfl
  | error _ stop => rfl

end Screen

/-! ## Closing through machines and live sessions

Ending a session asks the terminal once to close, and succeeds if the terminal does. Where giving up
a live session fails to close its screen, the second attempt leaves the screen as it is. -/

section

variable {τ : Type} [Terminal τ]

theorem Machine.execute_deinit_cases (machine : Machine τ)
    (active : machine.phase.isActive = true) :
    (∃ host, machine.execute .deinit = (.ok .unit, ⟨host, .inactive, none⟩) ∧
      Asks machine.terminal [⟨.closeSession, .ok ()⟩] host.terminal) ∨
    ∃ fault host, machine.execute .deinit = (.error (.fault fault), { machine with host }) ∧
      Asks machine.terminal [⟨.closeSession, .error fault⟩] host.terminal := by
  rcases machine with ⟨host, phase, bindings⟩
  apply execute_rule ⟨host, phase, bindings⟩ .deinit (motive := fun result =>
    (∃ after, result = (.ok .unit, ⟨after, .inactive, none⟩) ∧
      Asks host.terminal [⟨.closeSession, .ok ()⟩] after.terminal) ∨
    ∃ fault after, result = (.error (.fault fault), ⟨after, phase, bindings⟩) ∧
      Asks host.terminal [⟨.closeSession, .error fault⟩] after.terminal)
  · intro refusal refused
    cases phase with
    | inactive => cases active
    | active session => cases refused
  · intro next log leads
    cases leads with
    | deinit session =>
        simp only [dispatch, closeSession, ends_bind, ends_pure, Exchange.ends_note]
        apply Exchange.ends_asked .nil
        · intro _ terminal _ asks
          exact .inl ⟨_, rfl, asks⟩
        · intro fault terminal _ asks
          exact .inr ⟨fault, _, rfl, asks⟩

theorem Machine.execute_deinit (machine : Machine τ) (active : machine.phase.isActive = true) :
    (machine.execute .deinit).2.terminal =
        (Terminal.perform .closeSession machine.terminal).terminal ∧
      (machine.execute .deinit).1.isOk =
        (Terminal.perform .closeSession machine.terminal).answer.isOk := by
  rcases machine.execute_deinit_cases active with
    ⟨host, executed, asks⟩ | ⟨fault, host, executed, asks⟩
  · rcases asks.last with ⟨middle, notes, before, reply⟩
    cases before
    rw [executed, reply]
    exact ⟨rfl, rfl⟩
  · rcases asks.last with ⟨middle, notes, before, reply⟩
    cases before
    rw [executed, reply]
    exact ⟨rfl, rfl⟩

theorem Live.terminal_abandon (live : Live τ) :
    live.abandon.terminal =
      if live.machine.phase.isActive then
        (Terminal.perform .closeSession live.machine.terminal).terminal
      else live.machine.terminal := by
  unfold abandon
  cases active : live.machine.phase.isActive with
  | false => rfl
  | true =>
      rw [if_pos rfl, if_pos rfl, ← (live.machine.execute_deinit active).1]
      rcases live.machine.execute .deinit with ⟨result, machine⟩
      cases result with
      | ok _ => rfl
      | error failure => rfl

end

namespace Screen

theorem deinit_closes_once (live : Live Screen) (active : live.machine.phase.isActive = true) :
    live.deinit.2.terminal = afterClosing live.machine.terminal ∧
      live.deinit.1.isOk = (perform .closeSession live.machine.terminal).answer.isOk := by
  have first := live.machine.execute_deinit active
  unfold Live.deinit
  rcases executed : live.machine.execute .deinit with ⟨result, machine⟩
  rw [executed] at first
  rcases first with ⟨same, succeeded⟩
  change machine.terminal = afterClosing live.machine.terminal at same
  cases result with
  | ok _ => exact ⟨same, succeeded⟩
  | error failure =>
      refine ⟨?_, succeeded⟩
      have again : perform .closeSession machine.terminal =
          { answer := .ok (), terminal := machine.terminal } := by
        rw [same]
        exact perform_closeSession_of_closed (isOpen_afterClosing live.machine.terminal)
      have abandoned : (Live.abandon ⟨machine⟩).terminal = machine.terminal := by
        rw [Live.terminal_abandon]
        change (if machine.phase.isActive then (perform .closeSession machine.terminal).terminal
          else machine.terminal) = _
        rw [again, ite_self]
      exact abandoned.trans same

/-- Of all attempts to close a session only the first does anything. If it succeeds, the terminal
was restored. All others succeed, whether or not it was, and leave the terminal as the first left
it. -/
theorem only_first_closing_restores (screen : Screen) (opened : screen.isOpen = true) :
    ((perform .closeSession screen).answer.isOk → Restored screen (afterClosing screen)) ∧
      (∀ attempts, perform .closeSession (afterClosing^[attempts + 1] screen) =
        { answer := .ok (), terminal := afterClosing screen }) ∧
      (afterClosing screen).abandon = afterClosing screen ∧
      screen.abandon = (if screen.ownsDevice then afterClosing screen else screen) ∧
      ∀ live : Live Screen, live.machine.terminal = screen →
        live.machine.phase.isActive = true →
          live.deinit.2.terminal = afterClosing screen ∧
            live.deinit.1.isOk = (perform .closeSession screen).answer.isOk := by
  refine ⟨?_, perform_closeSession_again screen, ?_, ?_, ?_⟩
  · have achieved := closeSession_achieves opened
    unfold afterClosing
    unfold Achieves Ends at achieved
    rw [perform_closeSession]
    cases result : closeSession screen with
    | ok _ stop =>
        rw [result] at achieved
        intro _
        exact achieved
    | error fault stop =>
        intro succeeded
        cases succeeded
  · exact abandon_of_closed (isOpen_afterClosing screen)
  · cases owns : screen.ownsDevice with
    | false => simp only [abandon, owns, Bool.and_false, Bool.false_eq_true, if_false]
    | true => exact abandon_of_open opened owns
  · rintro live rfl active
    exact deinit_closes_once live active

/-- A live session on a device with room for three flushes, one for opening and two for closing. -/
theorem deinit_restores_terminal :
    let live : Live Screen :=
      ⟨((Machine.new (interactive
        { output := { flushesLeft := some 3 }, size := some ⟨2, 4⟩ })).execute (.init {})).2⟩
    live.machine.terminal.isOpen = true ∧ live.machine.phase.isActive = true ∧
      live.deinit.1.isOk = true ∧ Restored live.machine.terminal live.deinit.2.terminal := by
  intro live
  have opened : live.machine.terminal.isOpen = true := by decide
  have active : live.machine.phase.isActive = true := by decide
  have closing := only_first_closing_restores live.machine.terminal opened
  have gone := closing.2.2.2.2 live rfl active
  have succeeds : (perform .closeSession live.machine.terminal).answer.isOk = true := by decide
  refine ⟨opened, active, gone.2.trans succeeds, ?_⟩
  rw [gone.1]
  exact closing.1 succeeds

/-- An attempt that succeeds need not have restored anything: on an output without room the first
attempt fails, and the second reports success. -/
theorem closing_succeeds_unrestored :
    ¬ ∀ screen : Screen, screen.isOpen = true → ∀ attempts,
      (perform .closeSession (afterClosing^[attempts] screen)).answer.isOk = true →
        Restored screen (afterClosing^[attempts + 1] screen) := by
  intro always
  have restored := always
    (perform .openSession (headless { output := { room := some 0 } } ⟨2, 4⟩)).terminal
    (by decide) 1 (by decide)
  exact absurd restored.flushed (by decide)

end Screen

end TerminalSession
