import TerminalSession.Proofs.NativeAgreement
import TerminalSession.Proofs.ReadAgreement
import TerminalSession.Proofs.TypedInput

/-! # The loop of a read

A read looks for a code that is ready. If there is none it asks the device for the next event, takes
in its codes, and looks again. Where reads do not wait it first asks whether there is an event at
all. Here these questions are asked one at a time and written down, and the loop is taken turn by
turn. It comes to what `readCode` comes to. -/

namespace TerminalSession.Screen

/-! ## Asking a device

Whether there is an event may be asked, and then the next event. An answer tells how often there was
nothing before it, and that time is over then. What a device was asked for is listed latest
first. -/

def poll : List Occurrence → Except DeviceError Bool × List Occurrence
  | [] => (.error .eventsExhausted, [])
  | .failure :: rest => (.error .injectedEvent, rest)
  | .idle :: rest => (.ok false, rest)
  | .event heard :: rest => (.ok true, .event heard :: rest)

def nextEvent : List Occurrence → Nat × Except DeviceError Event × List Occurrence
  | [] => (0, .error .eventsExhausted, [])
  | .failure :: rest => (0, .error .injectedEvent, rest)
  | .idle :: rest => ((nextEvent rest).1 + 1, (nextEvent rest).2)
  | .event heard :: rest => (0, .ok heard, rest)

inductive Inquiry where
  | poll (answer : Except DeviceError Bool)
  | event (waited : Nat) (answer : Except DeviceError Event)

structure Listener where
  screen : Screen
  asked : List Inquiry := []

abbrev Listening := EStateM Fault Listener

namespace Listener

def afterPoll (listener : Listener) : Listener where
  screen := { listener.screen with device.events := (poll listener.screen.device.events).2 }
  asked := .poll (poll listener.screen.device.events).1 :: listener.asked

def afterEvent (listener : Listener) : Listener where
  screen := { listener.screen with device.events := (nextEvent listener.screen.device.events).2.2 }
  asked := .event (nextEvent listener.screen.device.events).1
    (nextEvent listener.screen.device.events).2.1 :: listener.asked

def working {α : Type} (work : Work α) : Listening α := fun listener =>
  match work listener.screen with
  | .ok value screen => .ok value { listener with screen }
  | .error fault screen => .error fault { listener with screen }

def polling : Listening Bool := fun listener =>
  match (poll listener.screen.device.events).1 with
  | .ok ready => .ok ready listener.afterPoll
  | .error error => .error (.device error) listener.afterPoll

def waiting : Listening Event := fun listener =>
  match (nextEvent listener.screen.device.events).2.1 with
  | .ok heard => .ok heard listener.afterEvent
  | .error error => .error (.device error) listener.afterEvent

def unasked {α : Type} : EStateM.Result Fault Listener α → EStateM.Result Fault Screen α
  | .ok value listener => .ok value listener.screen
  | .error fault listener => .error fault listener.screen

def inquiries {α : Type} : EStateM.Result Fault Listener α → List Inquiry
  | .ok _ listener => listener.asked
  | .error _ listener => listener.asked

end Listener

open Listener

def hear (window : Handle) (flags : Pane) (heard : Event) : Work Unit := do
  takeIn window (← codesOf flags.keypad heard)

def listen (window : Handle) (flags : Pane) : Listening (Option (Option Code)) := do
  let heard ← waiting
  working (hear window flags heard)
  return none

def turn (window : Handle) (flags : Pane) : Listening (Option (Option Code)) := do
  match ← working takeCode with
  | some code => return some (some code)
  | none =>
      if flags.noDelay then
        if !(← polling) then
          return some none
      listen window flags

inductive Loops (window : Handle) (flags : Pane) :
    Listener → EStateM.Result Fault Listener (Option Code) → Prop
  | returned {start stop : Listener} {result : Option Code}
      (last : turn window flags start = .ok (some result) stop) :
      Loops window flags start (.ok result stop)
  | failed {start stop : Listener} {fault : Fault}
      (last : turn window flags start = .error fault stop) :
      Loops window flags start (.error fault stop)
  | again {start middle : Listener} {ending : EStateM.Result Fault Listener (Option Code)}
      (first : turn window flags start = .ok none middle)
      (rest : Loops window flags middle ending) : Loops window flags start ending

/-! A search goes first through the codes that are ready, then through the script. -/

def search (window : Handle) (flags : Pane) : Work (Option Code) := do
  match ← takeCode with
  | some code => return some code
  | none => awaitCode window flags (← get).device.events

theorem readCode_eq (window : Handle) :
    readCode window = pane window >>= fun flags => search window flags := rfl

variable {window : Handle} {flags : Pane} {α : Type}

theorem ends_self (work : Work α) (screen : Screen) :
    Ends work screen (fun value after => work screen = .ok value after)
      (fun fault after => work screen = .error fault after) := by
  unfold Ends
  cases work screen <;> rfl

theorem bind_of_ok {β : Type} {work : Work α} {next : α → Work β} {screen after : Screen}
    {value : α}
    (done : work screen = .ok value after) : (work >>= next) screen = next value after := by
  simp only [bind, EStateM.bind, done]

theorem bind_of_error {β : Type} {work : Work α} {next : α → Work β} {screen after : Screen}
    {fault : Fault} (done : work screen = .error fault after) :
    (work >>= next) screen = .error fault after := by
  simp only [bind, EStateM.bind, done]

theorem ends_working {work : Work α} {start : Listener} {returned : α → Listener → Prop}
    {failed : Fault → Listener → Prop} :
    Ends (working work) start returned failed ↔
      Ends work start.screen (fun value screen => returned value { start with screen })
        (fun fault screen => failed fault { start with screen }) := by
  unfold Ends working
  cases work start.screen <;> rfl

/-! ## Hearing an event

After an event was heard the search starts anew. -/

def SameScript (before after : Screen) : Prop := after.device.events = before.device.events

instance : Std.Refl SameScript := ⟨fun _ => rfl⟩

instance : IsTrans Screen SameScript := ⟨fun _ _ _ before after => after.trans before⟩

theorem ignoresDrawing_sameScript : IgnoresDrawing SameScript := ⟨fun _ _ => rfl, fun _ _ => rfl⟩

theorem hear_sameScript (heard : Event) : Leaves SameScript (hear window flags heard) := by
  have told : Leaves SameScript (codesOf flags.keypad heard) :=
    Leaves.codesOf (fun _ _ _ => rfl) _ _
  apply told.bind
  intro codes
  exact Leaves.takeIn (ignoresDrawing_sameScript.ofWindow window) (fun _ _ => rfl) codes

/-! ## A turn is a part of the search -/

theorem takeCode_eq (screen : Screen) :
    takeCode screen = .ok screen.queue.next.1 { screen with queue := screen.queue.next.2 } := rfl

theorem search_of_ready {screen : Screen} {code : Code} {ready : List Code}
    (next : screen.queue.ready = code :: ready) :
    search window flags screen =
      .ok (some code) { screen with queue := { screen.queue with ready } } := by
  simp only [search, bind, EStateM.bind, takeCode_eq, InputQueue.next, next]
  rfl

theorem search_of_empty {screen : Screen} (empty : screen.queue.ready = []) :
    search window flags screen = awaitCode window flags screen.device.events screen := by
  simp only [search, bind, EStateM.bind, takeCode_eq, InputQueue.next, empty]
  rfl

theorem search_eq (screen : Screen) :
    search window flags screen = (do
      match ← takeCode with
      | some code => return some code
      | none => awaitCode window flags screen.device.events) screen := by
  simp only [search, bind, EStateM.bind, takeCode_eq]
  cases screen.queue.next.1 <;> rfl

theorem awaitCode_heard {screen : Screen} (heard : Event) (rest : List Occurrence) :
    awaitCode window flags (.event heard :: rest) screen =
      (hear window flags heard >>= fun _ => search window flags)
        { screen with device.events := rest } := by
  have unrolled : awaitCode window flags (.event heard :: rest) =
      setEvents rest >>= fun _ => hear window flags heard >>= fun _ => (do
        match ← takeCode with
        | some code => return some code
        | none => awaitCode window flags rest) := by
    simp only [hear, bind_assoc]
    rfl
  rw [unrolled]
  -- The loop looks at the script of the screen, which is what the recursion has left to go through.
  change (hear window flags heard >>= fun _ => (do
    match ← takeCode with
    | some code => return some code
    | none => awaitCode window flags rest)) { screen with device.events := rest } = _
  have left : Leaves SameScript (hear window flags heard) := hear_sameScript heard
  have kept := left { screen with device.events := rest }
  unfold Ends at kept
  simp only [bind, EStateM.bind]
  cases done : hear window flags heard { screen with device.events := rest } with
  | error fault after => rfl
  | ok _ after =>
      rw [done] at kept
      have same : after.device.events = rest := kept
      subst same
      exact (search_eq after).symm

/-- Waiting for a code is asking for the next event and searching anew, unless the search does not
wait and there is no event yet. -/
theorem awaitCode_eq {screen : Screen} {events : List Occurrence}
    (script : screen.device.events = events)
    (willing : flags.noDelay = true → (poll events).1 = .ok true) :
    awaitCode window flags events screen =
      match (nextEvent events).2.1 with
      | .error error =>
          .error (.device error) { screen with device.events := (nextEvent events).2.2 }
      | .ok heard =>
          (hear window flags heard >>= fun _ => search window flags)
            { screen with device.events := (nextEvent events).2.2 } := by
  induction events generalizing screen with
  | nil =>
      rcases screen with ⟨⟨output, events, size⟩⟩
      cases script
      rfl
  | cons occurrence rest induction =>
      cases occurrence with
      | failure => rfl
      | event heard => exact awaitCode_heard heard rest
      | idle =>
          have waits : flags.noDelay = false := by
            cases polls : flags.noDelay with
            | false => rfl
            | true => cases willing polls
          have later : awaitCode window flags (.idle :: rest) screen =
              awaitCode window flags rest { screen with device.events := rest } := by
            simp only [awaitCode, waits]
            rfl
          rw [later]
          apply induction rfl
          rw [waits]
          exact Bool.noConfusion

theorem eq_of_poll {events : List Occurrence} (ready : (poll events).1 = .ok true) :
    ∃ heard rest, events = .event heard :: rest := by
  cases events with
  | nil => cases ready
  | cons occurrence rest =>
      cases occurrence with
      | event heard => exact ⟨heard, rest, rfl⟩
      | idle => cases ready
      | failure => cases ready

theorem eq_of_nextEvent {events : List Occurrence} {heard : Event}
    (next : (nextEvent events).2.1 = .ok heard) :
    events =
      List.replicate (nextEvent events).1 .idle ++ .event heard :: (nextEvent events).2.2 := by
  induction events with
  | nil => cases next
  | cons occurrence rest induction =>
      cases occurrence with
      | failure => cases next
      | event first =>
          cases next
          rfl
      | idle => exact congrArg (List.cons _) (induction next)

/-! ## Turns -/

theorem ends_polling {start : Listener} {returned : Bool → Listener → Prop}
    {failed : Fault → Listener → Prop} :
    Ends polling start returned failed ↔
      match (poll start.screen.device.events).1 with
      | .ok ready => returned ready start.afterPoll
      | .error error => failed (.device error) start.afterPoll := by
  unfold Ends polling
  cases (poll start.screen.device.events).1 <;> rfl

theorem ends_waiting {start : Listener} {returned : Event → Listener → Prop}
    {failed : Fault → Listener → Prop} :
    Ends waiting start returned failed ↔
      match (nextEvent start.screen.device.events).2.1 with
      | .ok heard => returned heard start.afterEvent
      | .error error => failed (.device error) start.afterEvent := by
  unfold Ends waiting
  cases (nextEvent start.screen.device.events).2.1 <;> rfl

/-- The questions of a read that does not wait: it asks for an event only after it was told that
there is one, and gets it at once. A read that waits asks for nothing but events. -/
inductive Polite : Bool → List Inquiry → Prop
  | nothing {noDelay : Bool} : Polite noDelay []
  | poll {asked : List Inquiry} (answer : Except DeviceError Bool) (before : Polite true asked) :
      Polite true (.poll answer :: asked)
  | polled {asked : List Inquiry} (heard : Event) (before : Polite true asked) :
      Polite true (.event 0 (.ok heard) :: .poll (.ok true) :: asked)
  | waited {asked : List Inquiry} (waited : Nat) (answer : Except DeviceError Event)
      (before : Polite false asked) : Polite false (.event waited answer :: asked)

/-- The turn leaves the rest of the search to the turns that follow, and an event was consumed. -/
structure GoesOn (window : Handle) (flags : Pane) (start stop : Listener) : Prop where
  search : search window flags start.screen = search window flags stop.screen
  script : ∃ waited heard, start.screen.device.events =
    List.replicate waited .idle ++ .event heard :: stop.screen.device.events

theorem listen_ends {start : Listener} (empty : start.screen.queue.ready = [])
    (willing : flags.noDelay = true → (poll start.screen.device.events).1 = .ok true) :
    Ends (listen window flags) start
      (fun result stop => result = none ∧ GoesOn window flags start stop ∧
        stop.asked = start.afterEvent.asked)
      (fun fault stop => search window flags start.screen = .error fault stop.screen ∧
        stop.asked = start.afterEvent.asked) := by
  have found : search window flags start.screen = _ := search_of_empty empty
  rw [awaitCode_eq rfl willing] at found
  rw [listen, ends_bind, ends_waiting]
  cases next : (nextEvent start.screen.device.events).2.1 with
  | error error =>
      rw [next] at found
      exact ⟨found, rfl⟩
  | ok heard =>
      rw [next] at found
      dsimp only at found ⊢
      rw [ends_bind, ends_working]
      have kept : Leaves SameScript (hear window flags heard) := hear_sameScript heard
      apply ((kept _).and (ends_self _ _)).mono
      · rintro _ screen ⟨same, done⟩
        have left : screen.device.events = (nextEvent start.screen.device.events).2.2 := same
        refine ⟨rfl, ⟨found.trans (bind_of_ok done), ?_⟩, rfl⟩
        rw [left]
        exact ⟨_, heard, eq_of_nextEvent next⟩
      · rintro fault screen ⟨_, done⟩
        exact ⟨found.trans (bind_of_error done), rfl⟩

theorem awaitCode_unready {screen : Screen} {events : List Occurrence}
    (script : screen.device.events = events) (polls : flags.noDelay = true)
    (unready : (poll events).1 = .ok false) :
    awaitCode window flags events screen =
      .ok none { screen with device.events := (poll events).2 } := by
  cases events with
  | nil => cases unready
  | cons occurrence rest =>
      cases occurrence with
      | event heard => cases unready
      | failure => cases unready
      | idle =>
          simp only [awaitCode, polls]
          rfl

theorem awaitCode_unpolled {screen : Screen} {events : List Occurrence} {error : DeviceError}
    (script : screen.device.events = events) (failed : (poll events).1 = .error error) :
    awaitCode window flags events screen =
      .error (.device error) { screen with device.events := (poll events).2 } := by
  cases events with
  | nil =>
      rcases screen with ⟨⟨output, events, size⟩⟩
      cases script
      cases failed
      rfl
  | cons occurrence rest =>
      cases occurrence with
      | event heard => cases failed
      | idle => cases failed
      | failure =>
          cases failed
          rfl

theorem afterPoll_eq {listener : Listener}
    (ready : (poll listener.screen.device.events).1 = .ok true) :
    listener.afterPoll = { listener with asked := .poll (.ok true) :: listener.asked } := by
  rcases listener with ⟨⟨⟨output, events, size⟩⟩, asked⟩
  rcases eq_of_poll ready with ⟨heard, rest, same⟩
  cases same
  rfl

theorem asked_afterEvent {listener : Listener}
    (ready : (poll listener.screen.device.events).1 = .ok true) :
    ∃ heard, ∀ asked, ({ listener with asked } : Listener).afterEvent.asked =
      .event 0 (.ok heard) :: asked := by
  rcases eq_of_poll ready with ⟨heard, rest, same⟩
  refine ⟨heard, ?_⟩
  intro asked
  simp only [Listener.afterEvent, same, nextEvent]

inductive Turned (window : Handle) (flags : Pane) (start : Listener) :
    Option (Option Code) → Listener → Prop
  | code {stop : Listener} (code : Code)
      (found : search window flags start.screen = .ok (some code) stop.screen) :
      Turned window flags start (some (some code)) stop
  | nothing {stop : Listener}
      (found : search window flags start.screen = .ok none stop.screen)
      (polls : flags.noDelay = true) (empty : stop.screen.queue.ready = [])
      (asked : stop.asked = .poll (.ok false) :: start.asked) :
      Turned window flags start (some none) stop
  | again {stop : Listener} (goesOn : GoesOn window flags start stop) :
      Turned window flags start none stop

def TurnEnds (window : Handle) (flags : Pane) (start : Listener)
    (work : Listening (Option (Option Code))) : Prop :=
  Ends work start
    (fun result stop => Turned window flags start result stop ∧
      (Polite flags.noDelay start.asked → Polite flags.noDelay stop.asked))
    (fun fault stop => search window flags start.screen = .error fault stop.screen ∧
      (Polite flags.noDelay start.asked → Polite flags.noDelay stop.asked))

theorem waiting_turn_ends {start : Listener} (empty : start.screen.queue.ready = [])
    (waits : flags.noDelay = false) :
    TurnEnds window flags start (listen window flags) := by
  have willing : flags.noDelay = true → (poll start.screen.device.events).1 = .ok true := by
    rw [waits]
    exact Bool.noConfusion
  unfold TurnEnds
  rw [waits]
  apply (listen_ends empty willing).mono
  · rintro _ stop ⟨rfl, goesOn, asked⟩
    rw [asked]
    exact ⟨.again goesOn, .waited _ _⟩
  · rintro fault stop ⟨failed, asked⟩
    rw [asked]
    exact ⟨failed, .waited _ _⟩

theorem polling_turn_ends {start : Listener} (empty : start.screen.queue.ready = [])
    (polls : flags.noDelay = true) :
    TurnEnds window flags start (do
      if !(← polling) then
        return some none
      listen window flags) := by
  have found : search window flags start.screen = _ := search_of_empty empty
  unfold TurnEnds
  rw [ends_bind, ends_polling, polls]
  cases answered : (poll start.screen.device.events).1 with
  | error error =>
      rw [awaitCode_unpolled rfl answered] at found
      exact ⟨found, .poll _⟩
  | ok ready =>
      cases ready with
      | false =>
          rw [awaitCode_unready rfl polls answered] at found
          have asked : start.afterPoll.asked = .poll (.ok false) :: start.asked := by
            rw [Listener.afterPoll, answered]
          exact ⟨.nothing found polls empty asked, .poll _⟩
      | true =>
          rw [afterPoll_eq answered]
          rcases asked_afterEvent answered with ⟨heard, once⟩
          have still : ({ start with asked := .poll (.ok true) :: start.asked } :
              Listener).screen.queue.ready = [] := empty
          apply (listen_ends still fun _ => answered).mono
          · rintro _ stop ⟨rfl, goesOn, asked⟩
            rw [asked, once]
            exact ⟨.again ⟨goesOn.search, goesOn.script⟩, .polled heard⟩
          · rintro fault stop ⟨failed, asked⟩
            rw [asked, once]
            exact ⟨failed, .polled heard⟩

theorem turn_ends (window : Handle) (flags : Pane) (start : Listener) :
    TurnEnds window flags start (turn window flags) := by
  rw [TurnEnds, turn, ends_bind, ends_working]
  apply ends_takeCode
  · intro empty
    cases polls : flags.noDelay with
    | false =>
        have waiting : TurnEnds window flags start _ := waiting_turn_ends empty polls
        simpa [TurnEnds, polls] using waiting
    | true =>
        have polling : TurnEnds window flags start _ := polling_turn_ends empty polls
        simpa [TurnEnds, polls] using polling
  · intro code ready next
    exact ⟨.code code (search_of_ready next), id⟩

variable {start stop : Listener}

theorem turn_returned {result : Option (Option Code)}
    (done : turn window flags start = .ok result stop) :
    Turned window flags start result stop ∧
      (Polite flags.noDelay start.asked → Polite flags.noDelay stop.asked) := by
  have ends := turn_ends window flags start
  unfold TurnEnds Ends at ends
  rw [done] at ends
  exact ends

theorem turn_failed {fault : Fault} (done : turn window flags start = .error fault stop) :
    search window flags start.screen = .error fault stop.screen ∧
      (Polite flags.noDelay start.asked → Polite flags.noDelay stop.asked) := by
  have ends := turn_ends window flags start
  unfold TurnEnds Ends at ends
  rw [done] at ends
  exact ends

/-- A turn after which the loop goes on has consumed an event. -/
theorem turn_again (done : turn window flags start = .ok none stop) :
    GoesOn window flags start stop := by
  cases (turn_returned done).1 with
  | again goesOn => exact goesOn

theorem GoesOn.shorter (goesOn : GoesOn window flags start stop) :
    stop.screen.device.events.length < start.screen.device.events.length := by
  rcases goesOn.script with ⟨waited, heard, script⟩
  rw [script, List.length_append, List.length_cons]
  omega

/-! ## The whole loop

The loop goes from a screen to the end of the read, and comes to what the search comes to. -/

/-- Every read comes to an end. -/
theorem exists_loops (window : Handle) (flags : Pane) (start : Listener) :
    ∃ ending, Loops window flags start ending := by
  -- Induction on what is left of the script, because only an event makes the loop go on.
  induction size : start.screen.device.events.length using Nat.strongRecOn
    generalizing start with
  | _ size induction =>
      subst size
      cases done : turn window flags start with
      | error fault stop => exact ⟨_, .failed done⟩
      | ok result stop =>
          cases result with
          | some result => exact ⟨_, .returned done⟩
          | none =>
              rcases induction _ (turn_again done).shorter stop rfl with ⟨ending, rest⟩
              exact ⟨ending, .again done rest⟩

namespace Loops

variable {ending : EStateM.Result Fault Listener (Option Code)}

theorem search_eq (loops : Loops window flags start ending) :
    search window flags start.screen = unasked ending := by
  induction loops with
  | returned last =>
      cases (turn_returned last).1 with
      | code code found => exact found
      | nothing found polls empty asked => exact found
  | failed last => exact (turn_failed last).1
  | again first rest induction => exact (turn_again first).search.trans induction

theorem polite (loops : Loops window flags start ending)
    (before : Polite flags.noDelay start.asked) : Polite flags.noDelay (inquiries ending) := by
  induction loops with
  | returned last => exact (turn_returned last).2 before
  | failed last => exact (turn_failed last).2 before
  | again first rest induction => exact induction ((turn_returned first).2 before)

/-- A read comes back without a code only if it does not wait, no code is ready, and it was just
told that there is no event. -/
theorem nothing (loops : Loops window flags start ending) {stop : Listener}
    (returned : ending = .ok none stop) :
    flags.noDelay = true ∧ stop.screen.queue.ready = [] ∧
      ∃ earlier, stop.asked = .poll (.ok false) :: earlier := by
  induction loops with
  | returned last =>
      cases returned
      cases (turn_returned last).1 with
      | nothing found polls empty asked => exact ⟨polls, empty, _, asked⟩
  | failed last => cases returned
  | again first rest induction => exact induction returned

end Loops

theorem readCode_of_loops {screen : Screen} (there : screen.panes.get? window = some flags)
    {ending : EStateM.Result Fault Listener (Option Code)}
    (loops : Loops window flags { screen } ending) : readCode window screen = unasked ending := by
  have looked : pane window screen = .ok flags screen := by
    have got : (get : Work Screen) screen = .ok screen screen := rfl
    rw [pane, bind_of_ok got, there]
    rfl
  rw [readCode_eq, bind_of_ok looked]
  exact loops.search_eq

/-! ## Why a read fails -/

def OfDevice (fault : Fault) : Prop := ∃ error, fault = .device error

theorem OfWriting.ofDevice {fault : Fault} (writing : OfWriting fault) : OfDevice fault := by
  rcases writing with rfl | rfl
  · exact ⟨_, rfl⟩
  · exact ⟨_, rfl⟩

theorem awaitCode_ofDevice {screen : Screen} (events : List Occurrence)
    (script : screen.device.events = events) (there : (screen.panes.get? window).isSome) :
    Ends (awaitCode window flags events) screen (fun _ _ => True)
      (fun fault _ => OfDevice fault) := by
  induction events generalizing screen with
  | nil => exact ⟨_, rfl⟩
  | cons occurrence rest induction =>
      cases occurrence with
      | failure => exact ⟨_, rfl⟩
      | idle =>
          rw [awaitCode, ends_bind, setEvents, ends_modify]
          split
          · trivial
          · exact induction rfl there
      | event heard =>
          rw [awaitCode_event, ends_bind]
          apply (event_passes heard script there).mono
          · rintro _ middle ⟨passes, still⟩
            rw [ends_bind]
            apply ends_takeCode
            · intro _
              exact induction (passes.remaining script) still
            · intro _ _ _
              trivial
          · intro fault _ writing
            exact writing.ofDevice

theorem readCode_ofDevice {screen : Screen} (there : screen.panes.get? window = some flags) :
    Ends (readCode window) screen (fun _ _ => True) (fun fault _ => OfDevice fault) := by
  simp only [readCode, pane, bind_assoc, ends_bind, ends_get, there, ends_pure]
  apply ends_takeCode
  · intro _
    rw [ends_bind, ends_get]
    exact awaitCode_ofDevice _ rfl (by rw [there]; rfl)
  · intro _ _ _
    trivial

theorem readCode_waits {screen : Screen} (there : screen.panes.get? window = some flags) :
    Ends (readCode window) screen (fun code _ => code = none → flags.noDelay = true)
      (fun _ _ => True) := by
  rcases exists_loops window flags { screen } with ⟨ending, loops⟩
  rw [Ends, readCode_of_loops there loops]
  cases ending with
  | ok given stop =>
      rintro rfl
      exact (loops.nothing rfl).1
  | error fault stop => trivial

theorem perform_readInput {screen : Screen} (there : screen.panes.get? window = some flags) :
    ((perform (.readInput window) screen).answer = .ok none → flags.noDelay = true) ∧
      ∀ fault, (perform (.readInput window) screen).answer = .error fault → OfDevice fault := by
  apply @perform_rule (.readInput window) screen fun reply =>
    (reply.answer = .ok none → flags.noDelay = true) ∧
      ∀ fault, reply.answer = .error fault → OfDevice fault
  apply ((readCode_waits there).and (readCode_ofDevice there)).mono
  · rintro given stop ⟨waits, _⟩
    exact ⟨fun nothing => waits (Except.ok.inj nothing), nofun⟩
  · rintro fault stop ⟨_, device⟩
    refine ⟨nofun, ?_⟩
    rintro _ ⟨⟩
    exact device

end TerminalSession.Screen

namespace TerminalSession.Machine

open Screen

variable {machine : Machine Screen}

theorem current_flags (reached : machine.Reachable Rewired) {session : Session}
    {bindings : Bindings} (running : machine.phase = .active session)
    (bound : machine.bindings = some bindings) :
    ∃ flags, machine.terminal.panes.get? bindings.handle = some flags ∧
      flags.noDelay = session.shape.noDelay := by
  rcases (reached.agrees native_rewired).bound running with ⟨known, same, distinct, native⟩
  cases bound.symm.trans same
  have inStep := reached.inStep
  rw [running] at inStep
  rcases inStep.shape_eq with ⟨known, same, shape⟩
  cases bound.symm.trans same
  have mirrored := congrFun (congrArg Native.flags native) bindings.handle
  change machine.terminal.panes.flags bindings.handle = bindings.flags bindings.handle at mirrored
  rw [Bindings.flags_handle distinct, Panes.flags, Option.map_eq_some_iff] at mirrored
  rcases mirrored with ⟨flags, there, agree⟩
  refine ⟨flags, there, ?_⟩
  rw [← shape, Window.shape, ReadShape.noDelay_ofFlags]
  exact congrArg InputFlags.noDelay agree

theorem read_finds_input (reached : machine.Reachable Rewired) (shape : ReadShape) :
    (machine.read shape).1 ≠ .error (.fault .noInput) := by
  intro failed
  cases readFails_of_read reached.inStep failed with
  | noInput running fits bound waits silent =>
      rcases current_flags reached running bound with ⟨flags, there, same⟩
      rw [fits, waits, (perform_readInput there).1 silent] at same
      cases same
  | denied running fits bound answered =>
      rcases current_flags reached running bound with ⟨flags, there, _⟩
      rcases (perform_readInput there).2 _ answered with ⟨error, other⟩
      cases other

/-- On a screen a read that does not wait asks for an event only after it was told that there is
one, and comes back without a code only after it was told that there is none. A read that waits
never does, so no read of a machine ends for want of input. Every read comes to an end, because each
turn of its loop after which it goes on has consumed an event. -/
theorem polling_never_blocks (reached : machine.Reachable Rewired) :
    (∀ window flags, machine.terminal.panes.get? window = some flags →
      (∃ ending, Loops window flags { screen := machine.terminal } ending) ∧
      ∀ ending, Loops window flags { screen := machine.terminal } ending →
        readCode window machine.terminal = Listener.unasked ending ∧
        Polite flags.noDelay (Listener.inquiries ending) ∧
        ∀ stop, ending = .ok none stop →
          flags.noDelay = true ∧ stop.screen.queue.ready = [] ∧
            ∃ earlier, stop.asked = .poll (.ok false) :: earlier) ∧
    (∀ window flags start stop, turn window flags start = .ok none stop →
      ∃ waited heard, start.screen.device.events =
        List.replicate waited .idle ++ .event heard :: stop.screen.device.events) ∧
    (∀ shape, (machine.read shape).1 ≠ .error (.fault .noInput) ∧
      (machine.execute (.act (.readAs shape))).1 ≠ .error (.fault .noInput)) ∧
    (machine.execute (.act .getInput)).1 ≠ .error (.fault .noInput) := by
  have inStep := reached.inStep
  refine ⟨?_, ?_, ?_, ?_⟩
  · intro window flags there
    refine ⟨exists_loops window flags _, ?_⟩
    intro ending loops
    exact ⟨readCode_of_loops there loops, loops.polite .nothing, fun stop => loops.nothing⟩
  · intro window flags start stop done
    exact (turn_again done).script
  · intro shape
    refine ⟨read_finds_input reached shape, ?_⟩
    rw [Ne, ← (readAs_readsAlike inStep shape).failure]
    exact read_finds_input reached shape
  · intro failed
    cases running : machine.phase with
    | inactive =>
        have refused : (Command.act .getInput).apply machine.phase = .error .notActive := by
          rw [running]
          rfl
        rw [execute_refused refused] at failed
        cases failed
    | active session =>
        rw [← (getInput_readsAlike inStep running rfl).failure] at failed
        exact read_finds_input reached session.shape failed

/-- A key is released, and then nothing happens. A read that does not wait goes past the one and
stops at the other. -/
theorem released_key_is_passed_over :
    let released : Event := .key { cap := .char 'a' } true
    let device : Device := { events := [.event released, .idle, .event .other] }
    let opened := ((Machine.new (Screen.headless device ⟨24, 80⟩)).execute (.init {})).2
    let machine := (opened.execute (.act (.setNoDelay true))).2
    let flags : Pane := { origin := .origin, size := ⟨24, 80⟩, keypad := true, noDelay := true }
    machine.Reachable Rewired ∧ machine.terminal.panes.get? 0 = some flags ∧
      ∃ stop, Loops 0 flags { screen := machine.terminal } (.ok none stop) ∧
        stop.asked = [.poll (.ok false), .event 0 (.ok released), .poll (.ok true)] ∧
        Polite true stop.asked ∧ stop.screen.queue.ready = [] ∧
        (machine.read .maybeKey).1 ≠ .error (.fault .noInput) := by
  intro released device opened machine flags
  have begun : (new (Screen.headless device ⟨24, 80⟩)).Reachable Rewired := .new _
  have reached : machine.Reachable Rewired :=
    (begun.execute (.init {})).execute (.act (.setNoDelay true))
  have politely := polling_never_blocks reached
  have there : machine.terminal.panes.get? 0 = some flags := rfl
  let stop : Listener :=
    { screen := { machine.terminal with device.events := [.event .other] }
      asked := [.poll (.ok false), .event 0 (.ok released), .poll (.ok true)] }
  have loops : Loops 0 flags { screen := machine.terminal } (.ok none stop) :=
    .again rfl (.returned rfl)
  rcases (politely.1 0 flags there).2 _ loops with ⟨_, polite, nothing⟩
  exact ⟨reached, there, stop, loops, rfl, polite, (nothing stop rfl).2.1,
    (politely.2.2.1 .maybeKey).1⟩

end TerminalSession.Machine
