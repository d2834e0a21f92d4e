import TerminalSession.Proofs.NativeScreen
import TerminalSession.Proofs.TypedInput

/-! # Keys that could not be shown

Where typed characters are shown, they are shown before their codes are queued. So if showing them
fails, the read that heard of them fails, and their codes are in no queue: the key was pressed, and
no later read returns it. Nothing else is lost by such a failure. -/

namespace TerminalSession

namespace Screen

open InputQueue

/-! ## What a failure leaves behind

Codes are taken in unless they are to be shown and that fails. Then nothing was queued. -/

structure SameInput (before after : Screen) : Prop where
  events : after.device.events = before.device.events
  queue : after.queue = before.queue
  echo : after.echo = before.echo

instance : Std.Refl SameInput := ⟨fun _ => ⟨rfl, rfl, rfl⟩⟩

instance : IsTrans Screen SameInput where
  trans _ _ _ before after :=
    ⟨after.events.trans before.events, after.queue.trans before.queue, after.echo.trans before.echo⟩

theorem sameInput_drawing : IgnoresDrawing SameInput where
  output := fun _ _ => ⟨rfl, rfl, rfl⟩
  panes := fun _ _ => ⟨rfl, rfl, rfl⟩

variable {start middle stop : Screen} {window : Handle} {keypad : Bool}

/-- Codes are taken in unless they are to be shown and that fails. Then nothing was queued. -/
theorem takeIn_fails (codes : List Code) :
    Ends (takeIn window codes) start (fun _ _ => True)
      (fun _ stop => SameInput start stop ∧ start.echo = true) := by
  have drawing := sameInput_drawing.ofWindow window
  rw [takeIn, ends_bind, ends_get]
  cases echoes : start.echo with
  | false => trivial
  | true =>
      have shown : Ends (do
          (codes.filterMap echoed?).forM (putCell window)
          flush
          modify fun screen : Screen =>
            { screen with queue := screen.queue.accept screen.cbreak codes }) start
          (fun _ _ => True) (fun _ stop => SameInput start stop) := by
        apply (Leaves.forM (Leaves.putCell drawing) _).ends_before (Std.Refl.refl start)
        intro _ _ same
        apply (Leaves.flush drawing.output).ends_before same
        intro _ _ _
        trivial
      apply shown.mono
      · intros
        trivial
      · intro _ stop same
        exact ⟨same, rfl⟩

/-- A read failed because it could not show what was typed at its last event. All that happened
before was taken in, and made nothing ready. -/
structure Drops (keypad : Bool) (earlier : List Occurrence) (heard : Event)
    (before after : Screen) : Prop where
  events : before.device.events = earlier ++ .event heard :: after.device.events
  queue : after.queue = before.queue.accept before.cbreak (codesTyped keypad earlier)
  ready : after.queue.ready = []
  echo : after.echo = true

variable {earlier : List Occurrence} {heard : Event}

theorem Drops.cons {occurrence : Occurrence}
    (first : Passes [occurrence] (occurrence.codes keypad) start middle)
    (drops : Drops keypad earlier heard middle stop) :
    Drops keypad (occurrence :: earlier) heard start stop where
  events := by
    rw [first.events, drops.events, List.singleton_append, List.cons_append]
  queue := by
    rw [drops.queue, first.queue, first.cbreak, ← accept_append]
    rfl
  ready := drops.ready
  echo := drops.echo

def DropsLast (keypad : Bool) (origin : Screen) (work : Work (Option Code)) (start : Screen) :
    Prop :=
  Ends work start (fun _ _ => True)
    (fun fault stop => OfWriting fault → ∃ earlier heard, Drops keypad earlier heard origin stop)

theorem DropsLast.cons {occurrence : Occurrence} {work : Work (Option Code)}
    (first : Passes [occurrence] (occurrence.codes keypad) start middle)
    (drops : DropsLast keypad middle work middle) : DropsLast keypad start work middle := by
  apply Ends.mono drops
  · intros
    trivial
  · intro fault stop dropped writing
    rcases dropped writing with ⟨earlier, heard, later⟩
    exact ⟨occurrence :: earlier, heard, later.cons first⟩

theorem event_drops (heard : Event) {rest : List Occurrence}
    (events : start.device.events = .event heard :: rest) (empty : start.queue.ready = [])
    (there : (start.panes.get? window).isSome) :
    Ends (do
        setEvents rest
        takeIn window (← codesOf keypad heard)) start (fun _ _ => True)
      (fun _ stop => Drops keypad [] heard start stop) := by
  rw [ends_bind, setEvents, ends_modify, ends_bind]
  have still : (({ start with device.events := rest } : Screen).panes.get? window).isSome := there
  apply (codesOf_passes heard still).mono
  · rintro codes middle ⟨rfl, known, _⟩
    apply (takeIn_fails (heard.codes keypad)).mono
    · intros
      trivial
    · rintro _ stop ⟨same, shows⟩
      have remaining : rest = middle.device.events := known.events
      have unchanged : stop.queue = start.queue := by
        rw [same.queue, known.queue, accept_nil]
      refine ⟨?_, ?_, ?_, same.echo.trans shows⟩
      · rw [events, same.events, remaining]
        rfl
      · rw [unchanged]
        exact (accept_nil _ _).symm
      · rw [unchanged]
        exact empty
  · intro _ _ never
    exact never.elim

theorem awaitCode_drops (flags : Pane) (events : List Occurrence)
    (same : start.device.events = events) (empty : start.queue.ready = [])
    (there : (start.panes.get? window).isSome) :
    DropsLast flags.keypad start (awaitCode window flags events) start := by
  induction events generalizing start with
  | nil =>
      intro writing
      rcases writing with full | unflushed
      · cases full
      · cases unflushed
  | cons occurrence rest induction =>
      cases occurrence with
      | failure =>
          intro writing
          rcases writing with full | unflushed
          · cases full
          · cases unflushed
      | idle =>
          have passes : Passes [.idle] [] start { start with device.events := rest } :=
            setEvents_passes same
          unfold DropsLast
          rw [awaitCode, ends_bind, setEvents, ends_modify]
          split
          · trivial
          · have later : DropsLast flags.keypad _ _ { start with device.events := rest } :=
              induction rfl empty there
            exact later.cons passes
      | event heard =>
          unfold DropsLast
          rw [awaitCode_event, ends_bind]
          have dropped : Ends _ start (fun _ _ => True)
              (fun _ stop => Drops flags.keypad [] heard start stop) :=
            event_drops heard same empty there
          apply ((event_passes heard same there).and dropped).mono
          · rintro _ middle ⟨⟨passes, there⟩, _⟩
            rw [ends_bind]
            apply ends_takeCode
            · intro nothing
              have later := induction (passes.remaining same) nothing there
              exact later.cons passes
            · intros
              trivial
          · rintro fault stop ⟨_, drops⟩ _
            exact ⟨[], heard, drops⟩

theorem readCode_drops {pane : Pane} (found : start.panes.get? window = some pane) :
    DropsLast pane.keypad start (readCode window) start := by
  unfold DropsLast
  simp only [readCode, Screen.pane, bind_assoc, ends_bind, ends_get, found, ends_pure]
  apply ends_takeCode
  · intro nothing
    rw [ends_bind, ends_get]
    exact awaitCode_drops pane _ rfl nothing (by rw [found]; rfl)
  · intros
    trivial

/-! ## Calls

A call moves the codes of what it took in, whether or not it could show all of it. -/

variable {fault : Fault}

instance : DecidablePred OfWriting := fun fault =>
  inferInstanceAs (Decidable (fault = .device .outputFull ∨ fault = .device .flushFailed))

theorem perform_readInput_drops
    (failed : (perform (.readInput window) start).answer = .error fault)
    (writing : OfWriting fault) :
    start.echo = true ∧ (perform (.readInput window) start).terminal.cbreak = start.cbreak ∧
      ∃ earlier heard, Drops (start.keypadFor (.readInput window)) earlier heard start
        (perform (.readInput window) start).terminal := by
  cases found : start.panes.get? window with
  | none =>
      rw [perform_readInput_absent found] at failed
      cases failed
      rcases writing with full | unflushed
      · cases full
      · cases unflushed
  | some pane =>
      have keypad : start.keypadFor (.readInput window) = pane.keypad := by
        rw [keypadFor, found]
        rfl
      rw [keypad]
      have dropped : ∃ earlier heard, Drops pane.keypad earlier heard start
          (perform (.readInput window) start).terminal := by
        revert failed
        apply perform_rule (motive := fun reply => reply.answer = .error fault →
          ∃ earlier heard, Drops pane.keypad earlier heard start reply.terminal)
        apply (readCode_drops found).mono
        · intro _ _ _ failed
          cases failed
        · rintro _ stop dropped ⟨⟩
          exact dropped writing
      have steady : (perform (.readInput window) start).terminal.native = start.native := by
        rcases replied : perform (.readInput window) start with ⟨answer, after, notes⟩
        rw [replied] at failed
        change answer = _ at failed
        subst failed
        exact (faithful_perform replied).1
      rcases dropped with ⟨earlier, heard, drops⟩
      have echo := congrArg Native.echo steady
      exact ⟨echo.symm.trans drops.echo, congrArg Native.cbreak steady, earlier, heard, drops⟩

def failsToShow (screen : Screen) : Call → Bool
  | .readInput window =>
      match (perform (.readInput window) screen).answer with
      | .ok _ => false
      | .error fault => OfWriting fault
  | _ => false

def takenIn (screen : Screen) (call : Call) : List Occurrence :=
  let happened := consumed screen (perform call screen).terminal
  if screen.failsToShow call then happened.dropLast else happened

theorem failsToShow_iff :
    start.failsToShow (.readInput window) = true ↔
      ∃ fault, (perform (.readInput window) start).answer = .error fault ∧ OfWriting fault := by
  rw [failsToShow]
  cases (perform (.readInput window) start).answer with
  | ok code => simp
  | error fault => simp

theorem Drops.consumed_eq (drops : Drops keypad earlier heard start stop) :
    consumed start stop = earlier ++ [.event heard] := by
  apply Screen.consumed_eq
  rw [drops.events, List.append_assoc]
  rfl

variable {call : Call}

theorem continues_of_shows (stays : call = .openSession →
      (perform .openSession start).answer.isOk = false)
    (shows : start.failsToShow call = false) : Continues call start := by
  refine ⟨stays, ?_⟩
  rintro window fault rfl failed writing
  rw [failsToShow_iff.mpr ⟨fault, failed, writing⟩] at shows
  cases shows

theorem takenIn_of_drops (drops : Drops keypad earlier heard start
      (perform (.readInput window) start).terminal)
    (failed : (perform (.readInput window) start).answer = .error fault)
    (writing : OfWriting fault) : start.takenIn (.readInput window) = earlier := by
  rw [takenIn, failsToShow_iff.mpr ⟨fault, failed, writing⟩, if_pos rfl, drops.consumed_eq,
    List.dropLast_concat]

theorem perform_moves (stays : call = .openSession →
      (perform .openSession start).answer.isOk = false)
    (tidy : Tidy start.cbreak start.queue) :
    let reply := perform call start
    (∃ moved, Moves moved (codesTyped (start.keypadFor call) (start.takenIn call)) start.queue
      { reply.terminal.queue with
        ready := delivered call reply.answer ++ reply.terminal.queue.ready }) ∧
      Tidy reply.terminal.cbreak reply.terminal.queue := by
  cases shown : start.failsToShow call with
  | false =>
      have accounts := perform_accounts (continues_of_shows stays shown) tidy
      rcases accounts.moves with ⟨moved, _, moves⟩
      rw [takenIn, shown]
      exact ⟨⟨moved, moves⟩, accounts.tidy⟩
  | true =>
      cases call with
      | readInput window =>
          rcases failsToShow_iff.mp shown with ⟨fault, failed, writing⟩
          rcases perform_readInput_drops failed writing with ⟨_, cbreak, earlier, heard, drops⟩
          intro reply
          have answered : delivered (.readInput window) reply.answer = [] := by
            rw [show reply.answer = .error fault from failed]
            rfl
          rw [takenIn_of_drops drops failed writing, answered]
          rcases accept_moves tidy (codesTyped (start.keypadFor (.readInput window)) earlier) with
            ⟨moved, _, moves⟩
          have queued := accept_tidy tidy
            (codesTyped (start.keypadFor (.readInput window)) earlier)
          rw [← drops.queue] at moves queued
          rw [← cbreak] at queued
          exact ⟨⟨moved, moves⟩, queued⟩
      | _ => cases shown

/-! ## Sessions -/

/-- What reads returned and what was taken in since the session was opened, both in order. Showing
what is typed may fail at any time, and between two calls the screen may get another device. -/
inductive Attended : (returned taken : List Code) → Screen → Prop
  | opened {screen : Screen} (opens : (perform .openSession screen).answer.isOk = true) :
      Attended [] [] (perform .openSession screen).terminal
  | call {returned taken : List Code} {screen : Screen} (attended : Attended returned taken screen)
      (call : Call)
      (stays : call = .openSession → (perform .openSession screen).answer.isOk = false) :
      Attended (returned ++ delivered call (perform call screen).answer)
        (taken ++ codesTyped (screen.keypadFor call) (screen.takenIn call))
        (perform call screen).terminal
  | rewire {returned taken : List Code} {screen : Screen}
      (attended : Attended returned taken screen) (device : Device) :
      Attended returned taken { screen with device }

theorem Attended.in_order {returned taken : List Code} {screen : Screen}
    (attended : Attended returned taken screen) :
    returned ++ screen.queue.ready ++ screen.queue.line = taken ∧
      Tidy screen.cbreak screen.queue := by
  induction attended with
  | opened opens =>
      rw [queue_opened opens]
      exact ⟨rfl, List.not_mem_nil, fun _ => rfl⟩
  | call attended call stays induction =>
      rcases perform_moves stays induction.2 with ⟨⟨moved, moves⟩, tidy⟩
      exact ⟨moves.in_order induction.1, tidy⟩
  | rewire attended device induction => exact induction

/-- Reads return the codes of all that was taken in, once and in order. A read that fails because it
cannot show what was typed has taken in what happened before, and not the event that it could not
show: if that event has codes, they are not queued and no read returns them. -/
theorem unshown_codes_are_lost {returned taken : List Code} {screen : Screen}
    (attended : Attended returned taken screen) :
    returned ++ screen.queue.ready ++ screen.queue.line = taken ∧
      ∀ window fault, (perform (.readInput window) screen).answer = .error fault →
        OfWriting fault →
          let after := (perform (.readInput window) screen).terminal
          let keypad := screen.keypadFor (.readInput window)
          let earlier := screen.takenIn (.readInput window)
          screen.echo = true ∧
            after.queue = screen.queue.accept screen.cbreak (codesTyped keypad earlier) ∧
            after.queue.ready = [] ∧
            ∃ heard, consumed screen after = earlier ++ [.event heard] ∧
              (after.queue =
                  screen.queue.accept screen.cbreak (codesTyped keypad (consumed screen after)) ↔
                heard.codes keypad = []) := by
  refine ⟨attended.in_order.1, ?_⟩
  intro window fault failed writing after keypad earlier
  rcases perform_readInput_drops failed writing with ⟨echo, _, front, heard, drops⟩
  have same : earlier = front := takenIn_of_drops drops failed writing
  have queue := drops.queue
  have happened := drops.consumed_eq
  rw [← same] at queue happened
  refine ⟨echo, queue, drops.ready, heard, happened, ?_⟩
  have all : codesTyped keypad (consumed screen after) =
      codesTyped keypad earlier ++ heard.codes keypad := by
    rw [happened, codesTyped, List.flatMap_append, List.flatMap_singleton]
    rfl
  rw [all, accept_append, ← queue, eq_comm]
  exact accept_eq_self_iff _ _ _

/-- Line by line, the first letter is shown and waits for its line to end. The second one cannot be
shown. -/
theorem second_letter_is_lost :
    let first : Occurrence := .event (.key ⟨.char 'a', {}⟩ false)
    let second : Occurrence := .event (.key ⟨.char 'b', {}⟩ false)
    let last : Occurrence := .event (.key ⟨.enter, {}⟩ false)
    let device : Device := { output := { flushesLeft := some 1 }, events := [first, second, last] }
    let opened := (perform .openSession (headless {} ⟨2, 4⟩)).terminal
    let lineMode := (perform (.setRawMode false true) { opened with device }).terminal
    let read := perform (.readInput 0) lineMode
    Attended [] [] lineMode ∧ read.answer = .error (.device .flushFailed) ∧
      lineMode.takenIn (.readInput 0) = [first] ∧
      consumed lineMode read.terminal = [first, second] ∧ read.terminal.queue = ⟨[], [97]⟩ := by
  intro first second last device opened lineMode read
  have attended : Attended [] [] lineMode :=
    .call (.rewire (.opened rfl) device) (.setRawMode false true) (by simp)
  have failed : read.answer = .error (.device .flushFailed) := by decide +kernel
  have earlier : lineMode.takenIn (.readInput 0) = [first] := by decide +kernel
  rcases (unshown_codes_are_lost attended).2 0 _ failed (.inr rfl) with ⟨_, queue, _, _⟩
  refine ⟨attended, failed, earlier, by decide +kernel, ?_⟩
  rw [queue, earlier]
  decide +kernel

/-- A key that could not be shown when it was read is not read later: the next read returns the key
that was typed after it. -/
theorem unshown_key_is_never_read :
    ¬ ∀ (screen : Screen) (window : Handle) (fault : Fault) (code : Code) (others : List Code),
      screen.echo = true → screen.cbreak = true → screen.queue = {} →
      (perform (.readInput window) screen).answer = .error fault → OfWriting fault →
        let after := (perform (.readInput window) screen).terminal
        let quiet := (perform (.setRawMode true false) after).terminal
        codesTyped (screen.keypadFor (.readInput window)) (consumed screen after) =
            code :: others →
          (perform (.readInput window) quiet).answer = .ok (some code) := by
  intro always
  let typed : List Occurrence :=
    [.event (.key ⟨.char 'a', {}⟩ false), .event (.key ⟨.char 'b', {}⟩ false)]
  let opened := (perform .openSession
    (headless { output := { flushesLeft := some 0 }, events := typed } ⟨2, 4⟩)).terminal
  have read := always (perform (.setRawMode true true) opened).terminal 0 _ 97 [] rfl rfl rfl rfl
    (.inr rfl) rfl
  exact absurd read (by decide)

end Screen

end TerminalSession
