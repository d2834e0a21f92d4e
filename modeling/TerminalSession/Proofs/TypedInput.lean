import TerminalSession.Proofs.ScreenWork
import TerminalSession.Proofs.TypedLines

/-! # Input is read in the order it was typed

Codes come from events, wait in a queue and are returned by reads. A call is described by the events
it consumed: their codes were typed, and every code that was typed since the session started was
returned, is ready, or is part of the line that is being typed. -/

namespace TerminalSession

namespace Screen

open InputQueue

def Event.codes (keypad : Bool) : Event → List Code
  | .key press released => if released then [] else press.codes keypad
  | .resize _ => if keypad then [SpecialKey.resize.code] else []
  | .other => []

def Occurrence.codes (keypad : Bool) : Occurrence → List Code
  | .event heard => heard.codes keypad
  | .idle | .failure => []

def codesTyped (keypad : Bool) (occurrences : List Occurrence) : List Code :=
  occurrences.flatMap (Occurrence.codes keypad)

def consumed (before after : Screen) : List Occurrence :=
  before.device.events.take (before.device.events.length - after.device.events.length)

def OfWriting (fault : Fault) : Prop :=
  fault = .device .outputFull ∨ fault = .device .flushFailed

theorem consumed_eq {before after : Screen} {lost : List Occurrence}
    (split : before.device.events = lost ++ after.device.events) :
    consumed before after = lost := by
  unfold consumed
  rw [split, List.length_append, Nat.add_sub_cancel_right, List.take_left]

/-! ## Steps that pass input on

No event is lost to work that shows what was typed, unless writing failed. -/

structure Passes (lost : List Occurrence) (codes : List Code) (before after : Screen) : Prop where
  events : before.device.events = lost ++ after.device.events
  queue : after.queue = before.queue.accept before.cbreak codes
  cbreak : after.cbreak = before.cbreak

variable {start middle stop : Screen} {window : Handle} {α β : Type}

theorem Passes.of_eq (events : stop.device.events = start.device.events)
    (queue : stop.queue = start.queue) (cbreak : stop.cbreak = start.cbreak) :
    Passes [] [] start stop :=
  ⟨events.symm, by rw [accept_nil, queue], cbreak⟩

theorem Passes.trans {lost gone : List Occurrence} {codes more : List Code}
    (before : Passes lost codes start middle) (after : Passes gone more middle stop) :
    Passes (lost ++ gone) (codes ++ more) start stop where
  events := by
    rw [before.events, after.events, List.append_assoc]
  queue := by
    rw [after.queue, before.queue, before.cbreak, accept_append]
  cbreak := after.cbreak.trans before.cbreak

theorem Passes.remaining {occurrence : Occurrence} {rest : List Occurrence} {codes : List Code}
    (passes : Passes [occurrence] codes start stop)
    (script : start.device.events = occurrence :: rest) : stop.device.events = rest :=
  (List.cons.inj (passes.events.symm.trans script)).2

def Echoes (window : Handle) (codes : List Code) (work : Work α) : Prop :=
  ∀ start, (start.panes.get? window).isSome → Ends work start
    (fun _ stop => Passes [] codes start stop ∧ (stop.panes.get? window).isSome)
    (fun fault _ => OfWriting fault)

namespace Echoes

theorem pure (value : α) : Echoes window [] (Pure.pure value) := by
  intro start there
  exact ⟨.of_eq rfl rfl rfl, there⟩

theorem bind {codes more : List Code} {work : Work α} {next : α → Work β}
    (first : Echoes window codes work) (second : ∀ value, Echoes window more (next value)) :
    Echoes window (codes ++ more) (work >>= next) := by
  intro start there
  rw [ends_bind]
  apply (first start there).mono
  · rintro value middle ⟨before, there⟩
    apply (second value middle there).mono
    · rintro _ stop ⟨after, there⟩
      exact ⟨before.trans after, there⟩
    · intro _ _ failed
      exact failed
  · intro _ _ failed
    exact failed

theorem forM {step : α → Work PUnit} (body : ∀ member, Echoes window [] (step member))
    (members : List α) : Echoes window [] (members.forM step) := by
  induction members with
  | nil => exact pure _
  | cons member rest induction => exact (body member).bind fun _ => induction

theorem write (instruction : Instruction) : Echoes window [] (write instruction) := by
  intro start there
  apply ends_write
  · intro _
    exact ⟨.of_eq rfl rfl rfl, there⟩
  · intro _
    exact .inl rfl

theorem flush : Echoes window [] flush := by
  intro start there
  apply ends_flush
  · intro _
    exact ⟨.of_eq rfl rfl rfl, there⟩
  · exact .inr rfl

theorem putCell (character : Char) : Echoes window [] (putCell window character) := by
  intro start there
  cases found : start.panes.get? window with
  | none =>
      rw [found] at there
      cases there
  | some pane =>
      have rest : ∀ stop : Screen, (stop.panes.get? window).isSome →
          Ends (setPane window (putCharacter pane character).2) stop
            (fun _ last => Passes [] [] stop last ∧ (last.panes.get? window).isSome)
            (fun fault _ => OfWriting fault) := by
        intro stop there
        rw [setPane, ends_modify]
        refine ⟨.of_eq rfl rfl rfl, ?_⟩
        rcases Option.isSome_iff_exists.mp there with ⟨old, present⟩
        simp only [Panes.get?_set present, if_true, Option.isSome_some]
      have drawing : Echoes window [] (do
          writeAll (putCharacter pane character).1
          setPane window (putCharacter pane character).2) :=
        (forM write _).bind fun _ => rest
      have work := drawing start there
      simp only [Screen.putCell, Screen.pane, bind_assoc, ends_bind, ends_get, found, ends_pure]
      simp only [ends_bind] at work
      exact work

theorem takeIn (codes : List Code) : Echoes window codes (takeIn window codes) := by
  have queued : Echoes window codes (modify fun screen : Screen =>
      { screen with queue := screen.queue.accept screen.cbreak codes }) := by
    intro start there
    exact ⟨⟨rfl, rfl, rfl⟩, there⟩
  intro start there
  rw [Screen.takeIn, ends_bind, ends_get]
  cases start.echo with
  | false => exact queued start there
  | true =>
      have shown : Echoes window codes (do
          (codes.filterMap echoed?).forM (Screen.putCell window)
          Screen.flush
          modify fun screen : Screen =>
            { screen with queue := screen.queue.accept screen.cbreak codes }) :=
        (forM putCell _).bind fun _ => flush.bind fun _ => queued
      exact shown start there

end Echoes

/-! ## Reading

An event is taken from the script, its codes are queued, and one is taken if it is ready. A code
that is ready is returned at once. -/

/-- A read went through these occurrences and came back with these codes, at most one. What they
made ready is what it came back with and what is still ready. Nothing was ready before the last of
them, and nothing is if it came back without a code. -/
structure Waits (keypad : Bool) (lost : List Occurrence) (given : List Code)
    (before after : Screen) : Prop where
  events : before.device.events = lost ++ after.device.events
  queue : before.queue.accept before.cbreak (codesTyped keypad lost) =
    { after.queue with ready := given ++ after.queue.ready }
  cbreak : after.cbreak = before.cbreak
  patient : ∀ front, front <+: lost → front ≠ lost →
    (before.queue.accept before.cbreak (codesTyped keypad front)).ready = []
  attentive : given = [] → after.queue.ready = []

variable {keypad : Bool} {given : List Code} {lost : List Occurrence}

theorem Waits.refl {screen : Screen} (empty : screen.queue.ready = []) :
    Waits keypad [] [] screen screen where
  events := rfl
  queue := accept_nil _ _
  cbreak := rfl
  patient := fun _ before different => absurd (List.prefix_nil.mp before) different
  attentive := fun _ => empty

theorem Waits.taken {screen : Screen} {code : Code} {ready : List Code}
    (next : screen.queue.ready = code :: ready) :
    Waits keypad [] [code] screen { screen with queue := { screen.queue with ready } } where
  events := rfl
  queue := by
    rw [codesTyped, List.flatMap_nil, accept_nil, List.singleton_append, ← next]
  cbreak := rfl
  patient := fun _ before different => absurd (List.prefix_nil.mp before) different
  attentive := fun none => by cases none

theorem Waits.cons {occurrence : Occurrence} (empty : start.queue.ready = [])
    (first : Passes [occurrence] (occurrence.codes keypad) start middle)
    (rest : Waits keypad lost given middle stop) :
    Waits keypad (occurrence :: lost) given start stop where
  events := by
    rw [first.events, rest.events, List.singleton_append, List.cons_append]
  queue := by
    rw [← rest.queue, first.queue, first.cbreak, ← accept_append]
    rfl
  cbreak := rest.cbreak.trans first.cbreak
  patient := by
    intro front before different
    cases front with
    | nil =>
        rw [codesTyped, List.flatMap_nil, accept_nil]
        exact empty
    | cons earliest front =>
        rcases List.cons_prefix_cons.mp before with ⟨rfl, within⟩
        have earlier := rest.patient front within fun same => different (by rw [same])
        rw [first.queue, first.cbreak, ← accept_append] at earlier
        exact earlier
  attentive := rest.attentive

def Finds (keypad : Bool) (origin : Screen) (work : Work (Option Code)) (start : Screen) : Prop :=
  Ends work start (fun code stop => ∃ lost, Waits keypad lost code.toList origin stop)
    (fun fault stop => ¬OfWriting fault → ∃ lost, Waits keypad lost [] origin stop)

theorem Finds.cons {occurrence : Occurrence} {work : Work (Option Code)}
    (empty : start.queue.ready = [])
    (first : Passes [occurrence] (occurrence.codes keypad) start middle)
    (found : Finds keypad middle work middle) : Finds keypad start work middle := by
  apply Ends.mono found
  · rintro code stop ⟨lost, waits⟩
    exact ⟨occurrence :: lost, waits.cons empty first⟩
  · intro fault stop waited other
    rcases waited other with ⟨lost, waits⟩
    exact ⟨occurrence :: lost, waits.cons empty first⟩

theorem setEvents_passes {occurrence : Occurrence} {rest : List Occurrence}
    (events : start.device.events = occurrence :: rest) :
    Passes [occurrence] [] start { start with device.events := rest } :=
  ⟨events, (accept_nil _ _).symm, rfl⟩

theorem codesOf_passes (heard : Event) (there : (start.panes.get? window).isSome) :
    Ends (codesOf keypad heard) start
      (fun codes stop => codes = heard.codes keypad ∧ Passes [] [] start stop ∧
        (stop.panes.get? window).isSome)
      (fun _ _ => False) := by
  cases heard with
  | key press released => exact ⟨rfl, .of_eq rfl rfl rfl, there⟩
  | other => exact ⟨rfl, .of_eq rfl rfl rfl, there⟩
  | resize size =>
      rw [codesOf, ends_bind, ends_modify, ends_pure]
      refine ⟨rfl, ?_⟩
      cases found : start.panes.get? 0 with
      | none => exact ⟨.of_eq rfl rfl rfl, there⟩
      | some full =>
          refine ⟨.of_eq rfl rfl rfl, ?_⟩
          simp only [Panes.get?_set found]
          split
          · rfl
          · exact there

theorem ends_takeCode {returned : Option Code → Screen → Prop} {failed : Fault → Screen → Prop}
    (empty : start.queue.ready = [] → returned none start)
    (taken : ∀ code ready, start.queue.ready = code :: ready →
      returned (some code) { start with queue := { start.queue with ready } }) :
    Ends takeCode start returned failed := by
  have same : takeCode start =
      .ok start.queue.next.1 { start with queue := start.queue.next.2 } := rfl
  unfold Ends
  rw [same]
  unfold InputQueue.next
  cases queued : start.queue.ready with
  | nil => exact empty queued
  | cons code ready => exact taken code ready queued

theorem event_passes (heard : Event) {rest : List Occurrence}
    (events : start.device.events = .event heard :: rest)
    (there : (start.panes.get? window).isSome) :
    Ends (do
        setEvents rest
        takeIn window (← codesOf keypad heard)) start
      (fun _ stop => Passes [.event heard] (heard.codes keypad) start stop ∧
        (stop.panes.get? window).isSome)
      (fun fault _ => OfWriting fault) := by
  rw [ends_bind, setEvents, ends_modify, ends_bind]
  have still : (({ start with device.events := rest } : Screen).panes.get? window).isSome := there
  apply (codesOf_passes heard still).mono
  · rintro codes middle ⟨rfl, known, there⟩
    apply (Echoes.takeIn (heard.codes keypad) middle there).mono
    · rintro _ stop ⟨queued, there⟩
      exact ⟨(setEvents_passes events).trans (known.trans queued), there⟩
    · intro _ _ failed
      exact failed
  · intro _ _ never
    exact never.elim

theorem awaitCode_event (flags : Pane) (heard : Event) (rest : List Occurrence) :
    awaitCode window flags (.event heard :: rest) =
      (do
        setEvents rest
        takeIn window (← codesOf flags.keypad heard)) >>= fun _ => (do
        match ← takeCode with
        | some code => return some code
        | none => awaitCode window flags rest) := by
  simp only [bind_assoc]
  rfl

/-- Waiting for a code goes through the script up to the first event that makes one ready. -/
theorem awaitCode_finds (flags : Pane) (events : List Occurrence)
    (same : start.device.events = events) (empty : start.queue.ready = [])
    (there : (start.panes.get? window).isSome) :
    Finds flags.keypad start (awaitCode window flags events) start := by
  induction events generalizing start with
  | nil => exact fun _ => ⟨[], .refl empty⟩
  | cons occurrence rest induction =>
      cases occurrence with
      | failure =>
          have none : Waits flags.keypad [] [] { start with device.events := rest }
            { start with device.events := rest } := .refl empty
          exact fun _ => ⟨_, none.cons empty (setEvents_passes same)⟩
      | idle =>
          have passes : Passes [.idle] [] start { start with device.events := rest } :=
            setEvents_passes same
          unfold Finds
          rw [awaitCode, ends_bind, setEvents, ends_modify]
          split
          · have none : Waits flags.keypad [] [] { start with device.events := rest }
              { start with device.events := rest } := .refl empty
            exact ⟨_, none.cons empty passes⟩
          · have later : Finds flags.keypad _ _ { start with device.events := rest } :=
              induction rfl empty there
            exact later.cons empty passes
      | event heard =>
          unfold Finds
          rw [awaitCode_event, ends_bind]
          apply (event_passes heard same there).mono
          · rintro _ middle ⟨passes, there⟩
            rw [ends_bind]
            apply ends_takeCode
            · intro nothing
              have later := induction (passes.remaining same) nothing there
              exact later.cons empty passes
            · intro code ready next
              have taken : Waits flags.keypad [] [code] middle _ := .taken next
              exact ⟨_, taken.cons empty passes⟩
          · intro fault _ failed other
            exact absurd failed other

theorem readCode_finds {pane : Pane} (found : start.panes.get? window = some pane) :
    Finds pane.keypad start (readCode window) start := by
  unfold Finds
  simp only [readCode, Screen.pane, bind_assoc, ends_bind, ends_get, found, ends_pure]
  apply ends_takeCode
  · intro nothing
    rw [ends_bind, ends_get]
    exact awaitCode_finds pane _ rfl nothing (by rw [found]; rfl)
  · intro code ready next
    exact ⟨[], .taken next⟩

/-! ## Calls

Of the calls only reads listen. Of the others, those that use the device can lose failures that were
in its script, and switching the input mode can complete a line. -/

structure Idle (before after : Screen) : Prop where
  events : ∃ count, before.device.events = List.replicate count .failure ++ after.device.events
  queue : after.queue = before.queue
  cbreak : after.cbreak = before.cbreak

instance : Std.Refl Idle := ⟨fun _ => ⟨⟨0, rfl⟩, rfl, rfl⟩⟩

instance : IsTrans Screen Idle where
  trans first second third before after := by
    rcases before.events with ⟨count, events⟩
    rcases after.events with ⟨more, later⟩
    refine ⟨⟨count + more, ?_⟩, after.queue.trans before.queue, after.cbreak.trans before.cbreak⟩
    rw [events, later, List.replicate_add, List.append_assoc]

theorem idle_drawing : IgnoresDrawing Idle where
  output := fun _ _ => ⟨⟨0, rfl⟩, rfl, rfl⟩
  panes := fun _ _ => ⟨⟨0, rfl⟩, rfl, rfl⟩

theorem switchRawMode_idle : Leaves Idle switchRawMode := by
  intro start
  unfold Ends switchRawMode Device.switchRawMode
  rcases start with ⟨⟨output, events, size, switches⟩⟩
  cases events with
  | nil => cases switches <;> exact ⟨⟨0, rfl⟩, rfl, rfl⟩
  | cons occurrence rest =>
      cases occurrence with
      | failure => exact ⟨⟨1, rfl⟩, rfl, rfl⟩
      | idle => cases switches <;> exact ⟨⟨0, rfl⟩, rfl, rfl⟩
      | event heard => cases switches <;> exact ⟨⟨0, rfl⟩, rfl, rfl⟩

theorem openSession_input :
    Ends openSession start (fun _ stop => stop.queue = {}) (fun _ stop => Idle start stop) := by
  rw [openSession, ends_bind, ends_get]
  cases start.ownsDevice with
  | false => exact rfl
  | true =>
      apply switchRawMode_idle.ends_before (Std.Refl.refl start)
      intro _ _ same
      apply (Leaves.writeAll idle_drawing.output _).ends_before same
      intro _ _ same
      apply (Leaves.flush idle_drawing.output).ends_before same
      intro _ later same
      rw [ends_bind, ends_get]
      cases later.device.size with
      | none => exact same
      | some size => exact rfl

def Listens : Call → Bool
  | .openSession | .setRawMode .. | .readInput _ => true
  | _ => false

theorem answer_idle {call : Call} (deaf : Listens call = false) : Leaves Idle (answer call) := by
  cases draws : Draws call with
  | true => exact Leaves.answer idle_drawing draws
  | false =>
      cases call with
      | openSession => cases deaf
      | setRawMode cbreak echo => cases deaf
      | readInput window => cases deaf
      | closeSession =>
          exact Leaves.closeSession (fun instruction _ => Leaves.write idle_drawing.output instruction)
            (Leaves.flush idle_drawing.output) switchRawMode_idle fun _ => ⟨⟨0, rfl⟩, rfl, rfl⟩
      | allocatePair foreground background =>
          exact Leaves.allocatePair (fun _ _ => ⟨⟨0, rfl⟩, rfl, rfl⟩) foreground background
      | _ => cases draws

def delivered : (call : Call) → Except Fault call.Answer → List Code
  | .readInput _, .ok (some code) => [code]
  | _, _ => []

def keypadFor (screen : Screen) : Call → Bool
  | .readInput window => ((screen.panes.get? window).map Pane.keypad).getD false
  | _ => false

/-- All input is accounted for: what was typed went to the end of the line, what moved from the
start of the line went to the end of the ready codes, and what was returned came from their
start. -/
structure Accounts (keypad : Bool) (given : List Code) (before after : Screen) : Prop where
  consumes : before.device.events = consumed before after ++ after.device.events
  moves : ∃ moved, (before.cbreak = false → after.cbreak = false → WholeLines moved) ∧
    Moves moved (codesTyped keypad (consumed before after)) before.queue
      { after.queue with ready := given ++ after.queue.ready }
  tidy : Tidy after.cbreak after.queue

theorem Idle.accounts (idle : Idle start stop) (tidy : Tidy start.cbreak start.queue)
    (keypad : Bool) : Accounts keypad [] start stop := by
  rcases idle.events with ⟨count, events⟩
  have gone := consumed_eq events
  have typed : codesTyped keypad (List.replicate count .failure) = [] := by
    simp [codesTyped, Occurrence.codes]
  refine ⟨by rw [gone, events], ⟨[], by simp [WholeLines], ?_⟩, ?_⟩
  · rw [gone, typed, idle.queue]
    exact ⟨(List.append_nil _).symm, List.append_nil _⟩
  · rw [idle.queue, idle.cbreak]
    exact tidy

theorem Waits.accounts (waits : Waits keypad lost given start stop)
    (tidy : Tidy start.cbreak start.queue) : Accounts keypad given start stop := by
  have gone := consumed_eq waits.events
  rcases accept_moves tidy (codesTyped keypad lost) with ⟨moved, lines, moves⟩
  have queued := accept_tidy tidy (codesTyped keypad lost)
  rw [waits.queue] at moves queued
  refine ⟨by rw [gone, waits.events], ⟨moved, fun lineMode _ => lines lineMode, ?_⟩, ?_⟩
  · rw [gone]
    exact moves
  · rw [waits.cbreak]
    exact ⟨queued.unfinished, queued.noLine⟩

/-- The input goes on with this call: it starts no new session, and nothing it shows gets lost. -/
structure Continues (call : Call) (screen : Screen) : Prop where
  stays : call = .openSession → (perform .openSession screen).answer.isOk = false
  echoed : ∀ window fault, call = .readInput window →
    (perform (.readInput window) screen).answer = .error fault → ¬OfWriting fault

theorem perform_readInput_waits {pane : Pane} (found : start.panes.get? window = some pane)
    (continues : Continues (.readInput window) start) :
    ∃ lost, Waits pane.keypad lost
      (delivered (.readInput window) (perform (.readInput window) start).answer) start
      (perform (.readInput window) start).terminal := by
  have echoed := fun fault => continues.echoed window fault rfl
  revert echoed
  apply perform_rule (motive := fun reply =>
    (∀ fault, reply.answer = .error fault → ¬OfWriting fault) →
      ∃ lost, Waits pane.keypad lost (delivered (.readInput window) reply.answer) start
        reply.terminal)
  apply Ends.mono (readCode_finds found)
  · rintro code stop ⟨lost, waits⟩ _
    cases code with
    | none => exact ⟨lost, waits⟩
    | some code => exact ⟨lost, waits⟩
  · intro fault stop waited echoed
    exact waited (echoed fault rfl)

theorem perform_readInput_absent (absent : start.panes.get? window = none) :
    perform (.readInput window) start = { answer := .error .invalidHandle, terminal := start } := by
  apply perform_rule (motive := fun reply =>
    reply = { answer := .error .invalidHandle, terminal := start })
  change Ends (readCode window) start _ _
  simp only [readCode, Screen.pane, bind_assoc, ends_bind, ends_get, absent, ends_throw]

/-- Switching to keys one by one completes the line, switching back moves nothing. -/
theorem setRawMode_accounts (tidy : Tidy start.cbreak start.queue) (cbreak echo : Bool) :
    Accounts false [] start (perform (.setRawMode cbreak echo) start).terminal := by
  have nothing : consumed start (perform (.setRawMode cbreak echo) start).terminal = [] :=
    consumed_eq rfl
  cases cbreak with
  | false =>
      refine ⟨by rw [nothing]; rfl, ⟨[], by simp [WholeLines], ?_⟩, tidy.unfinished, ?_⟩
      · rw [nothing]
        exact ⟨(List.append_nil _).symm, List.append_nil _⟩
      · intro on
        cases on
  | true =>
      refine ⟨by rw [nothing]; rfl, ⟨start.queue.line, ?_, ?_⟩, List.not_mem_nil, fun _ => rfl⟩
      · intro _ lineMode
        cases lineMode
      · rw [nothing]
        exact release_moves start.queue

theorem perform_accounts {call : Call} (continues : Continues call start)
    (tidy : Tidy start.cbreak start.queue) :
    Accounts (start.keypadFor call) (delivered call (perform call start).answer) start
      (perform call start).terminal := by
  cases listens : Listens call with
  | false =>
      have given : ∀ answer, delivered call answer = [] := by
        intro answer
        cases call with
        | readInput window => cases listens
        | _ => rfl
      rw [given]
      apply perform_rule (motive := fun reply =>
        Accounts (start.keypadFor call) [] start reply.terminal)
      apply (answer_idle listens start).mono
      · intro _ stop idle
        exact idle.accounts tidy _
      · intro _ stop idle
        exact idle.accounts tidy _
  | true =>
      cases call with
      | openSession =>
          have stays := continues.stays rfl
          revert stays
          apply perform_rule (motive := fun reply =>
            reply.answer.isOk = false → Accounts false [] start reply.terminal)
          apply Ends.mono openSession_input
          · intro _ _ _ stays
            cases stays
          · intro _ stop idle _
            exact idle.accounts tidy _
      | setRawMode cbreak echo =>
          exact setRawMode_accounts tidy cbreak echo
      | readInput window =>
          cases found : start.panes.get? window with
          | none =>
              have idle : Idle start start := Std.Refl.refl start
              rw [perform_readInput_absent found]
              exact idle.accounts tidy _
          | some pane =>
              rcases perform_readInput_waits found continues with ⟨lost, waits⟩
              have keypad : start.keypadFor (.readInput window) = pane.keypad := by
                rw [keypadFor, found]
                rfl
              rw [keypad]
              exact waits.accounts tidy
      | _ => cases listens

/-! ## Sessions

Between two calls the screen may get another device. -/

inductive Listened : (returned typed : List Code) → Screen → Prop
  | opened {screen : Screen} (opens : (perform .openSession screen).answer.isOk = true) :
      Listened [] [] (perform .openSession screen).terminal
  | call {returned typed : List Code} {screen : Screen} (listened : Listened returned typed screen)
      (call : Call) (continues : Continues call screen) :
      Listened (returned ++ delivered call (perform call screen).answer)
        (typed ++ codesTyped (screen.keypadFor call)
          (consumed screen (perform call screen).terminal))
        (perform call screen).terminal
  | rewire {returned typed : List Code} {screen : Screen}
      (listened : Listened returned typed screen) (device : Device) :
      Listened returned typed { screen with device }

theorem queue_opened {screen : Screen} (opens : (perform .openSession screen).answer.isOk = true) :
    (perform .openSession screen).terminal.queue = {} := by
  revert opens
  apply perform_rule (motive := fun reply =>
    reply.answer.isOk = true → reply.terminal.queue = {})
  apply Ends.mono openSession_input
  · intro _ stop fresh _
    exact fresh
  · intro _ _ _ opens
    cases opens

theorem Listened.in_order {returned typed : List Code} {screen : Screen}
    (listened : Listened returned typed screen) :
    returned ++ screen.queue.ready ++ screen.queue.line = typed ∧
      Tidy screen.cbreak screen.queue := by
  induction listened with
  | opened opens =>
      rw [queue_opened opens]
      exact ⟨rfl, List.not_mem_nil, fun _ => rfl⟩
  | @call returned typed screen listened call continues induction =>
      rcases induction with ⟨order, tidy⟩
      have accounts := perform_accounts continues tidy
      rcases accounts.moves with ⟨moved, _, moves⟩
      exact ⟨moves.in_order order, accounts.tidy⟩
  | rewire listened device induction => exact induction

/-- A read takes nothing from the script while a code is ready, and no more than what makes one
ready. -/
theorem read_stops_in_time {screen : Screen} (continues : Continues (.readInput window) screen) :
    let reply := perform (.readInput window) screen
    (screen.queue.ready ≠ [] → consumed screen reply.terminal = []) ∧
      (∀ front, front <+: consumed screen reply.terminal →
        front ≠ consumed screen reply.terminal →
          (screen.queue.accept screen.cbreak
            (codesTyped (screen.keypadFor (.readInput window)) front)).ready = []) ∧
      ((screen.panes.get? window).isSome → delivered (.readInput window) reply.answer = [] →
        reply.terminal.queue.ready = []) := by
  intro reply
  cases found : screen.panes.get? window with
  | none =>
      have same : reply = { answer := .error .invalidHandle, terminal := screen } :=
        perform_readInput_absent found
      have nothing : consumed screen reply.terminal = [] := by
        rw [same]
        exact consumed_eq rfl
      refine ⟨fun _ => nothing, ?_, ?_⟩
      · intro front before different
        rw [nothing] at before different
        exact absurd (List.prefix_nil.mp before) different
      · intro there
        cases there
  | some pane =>
      rcases perform_readInput_waits found continues with ⟨lost, waits⟩
      have gone : consumed screen reply.terminal = lost := consumed_eq waits.events
      rw [gone, keypadFor, found]
      refine ⟨?_, waits.patient, fun _ => waits.attentive⟩
      intro ready
      by_contra some
      have empty := waits.patient [] List.nil_prefix (Ne.symm some)
      rw [codesTyped, List.flatMap_nil, accept_nil] at empty
      exact ready empty

/-- Nothing that is typed in a session is lost, returned twice or out of order, and reads listen no
longer than they have to. -/
theorem typed_codes_are_read_in_order {returned typed : List Code} {screen : Screen}
    (listened : Listened returned typed screen) :
    returned ++ screen.queue.ready ++ screen.queue.line = typed ∧
      newline ∉ screen.queue.line ∧
      (screen.cbreak = true → screen.queue.line = []) ∧
      (∀ echo, (perform (.setRawMode screen.cbreak echo) screen).terminal.queue =
        screen.queue) ∧
      (∀ call, Continues call screen →
        Accounts (screen.keypadFor call) (delivered call (perform call screen).answer) screen
          (perform call screen).terminal) ∧
      ∀ window, Continues (.readInput window) screen →
        let reply := perform (.readInput window) screen
        (screen.queue.ready ≠ [] → consumed screen reply.terminal = []) ∧
          (∀ front, front <+: consumed screen reply.terminal →
            front ≠ consumed screen reply.terminal →
              (screen.queue.accept screen.cbreak
                (codesTyped (screen.keypadFor (.readInput window)) front)).ready = []) ∧
          ((screen.panes.get? window).isSome → delivered (.readInput window) reply.answer = [] →
            reply.terminal.queue.ready = []) := by
  rcases listened.in_order with ⟨order, tidy⟩
  refine ⟨order, tidy.unfinished, tidy.noLine, ?_, ?_, ?_⟩
  · intro echo
    cases mode : screen.cbreak with
    | false => rfl
    | true =>
        change screen.queue.release = screen.queue
        rw [release, tidy.noLine mode, List.append_nil, ← tidy.noLine mode]
  · intro call continues
    exact perform_accounts continues tidy
  · intro window continues
    exact read_stops_in_time continues

/-- The letter is returned once its line is complete, and the next read takes no event. -/
theorem complete_line_is_read_in_order :
    let events : List Occurrence :=
      [.event (.key ⟨.char 'a', {}⟩ false), .idle, .event (.key ⟨.enter, {}⟩ false),
        .event (.key ⟨.char 'b', {}⟩ false)]
    let opened := (perform .openSession (headless {} ⟨2, 4⟩)).terminal
    let lineMode := (perform (.setRawMode false false) { opened with device := { events } }).terminal
    let read := (perform (.readInput 0) lineMode).terminal
    Listened [97] [97, 10] read ∧ Continues (.readInput 0) read ∧
      [97] ++ read.queue.ready ++ read.queue.line = [97, 10] ∧
      consumed read (perform (.readInput 0) read).terminal = [] := by
  intro events opened lineMode read
  have first : (perform (.readInput 0) lineMode).answer = .ok (some 97) := rfl
  have second : (perform (.readInput 0) read).answer = .ok (some 10) := rfl
  have listened : Listened [97] [97, 10] read := by
    have before : Listened [] [] lineMode :=
      .call (.rewire (.opened rfl) { events }) (.setRawMode false false) ⟨by simp, by simp⟩
    refine .call before (.readInput 0) ⟨by simp, ?_⟩
    rintro window fault ⟨⟩ failed
    rw [first] at failed
    cases failed
  have continues : Continues (.readInput 0) read := by
    refine ⟨by simp, ?_⟩
    rintro window fault ⟨⟩ failed
    rw [second] at failed
    cases failed
  have inOrder := typed_codes_are_read_in_order listened
  exact ⟨listened, continues, inOrder.1, (inOrder.2.2.2.2.2 0 continues).1 (by decide)⟩

end Screen

end TerminalSession
