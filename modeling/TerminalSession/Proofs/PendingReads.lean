import TerminalSession.Proofs.AskedCalls
import TerminalSession.Proofs.TypedInput

/-! # Reads come to an end

Every read that succeeds takes something away from what there is to read: a code that was ready, or
an entry of the script. So only so many reads can succeed one after the other as were pending
before the first of them, whatever else is done in between, as long as nothing is typed. -/

namespace TerminalSession.Screen

open InputQueue

/-! ## What is pending

An entry of the script counts for more than the codes it stands for, and no code is lost where it is
typed. -/

def InputQueue.waiting (queue : InputQueue) : Nat := queue.ready.length + queue.line.length

def scriptReads : List Occurrence → Nat
  | [] => 0
  | occurrence :: events => occurrence.reads + scriptReads events

theorem pendingReads_eq (screen : Screen) :
    screen.pendingReads = screen.queue.waiting + scriptReads screen.device.events := by
  have same : ∀ events : List Occurrence,
      events.foldr (fun occurrence count => occurrence.reads + count) 0 = scriptReads events := by
    intro events
    induction events with
    | nil => rfl
    | cons occurrence events induction => exact congrArg (occurrence.reads + ·) induction
  rw [pendingReads, same]
  rfl

theorem scriptReads_le_append (lost events : List Occurrence) :
    scriptReads events ≤ scriptReads (lost ++ events) := by
  induction lost with
  | nil => exact Nat.le_refl _
  | cons occurrence lost induction => exact Nat.le_trans induction (Nat.le_add_left _ _)

theorem waiting_type (queue : InputQueue) (code : Code) :
    (queue.type code).waiting = queue.waiting + 1 := by
  unfold type
  dsimp only
  split <;> simp [waiting, release, Nat.add_assoc]

theorem waiting_accept (queue : InputQueue) (cbreak : Bool) (codes : List Code) :
    (queue.accept cbreak codes).waiting = queue.waiting + codes.length := by
  cases cbreak with
  | true => simp [accept, waiting, Nat.add_right_comm]
  | false =>
      change (codes.foldl type queue).waiting = _
      induction codes generalizing queue with
      | nil => rfl
      | cons code codes induction =>
          rw [List.foldl_cons, induction, waiting_type, List.length_cons]
          omega

theorem length_codes_lt_reads (keypad : Bool) (occurrence : Occurrence) :
    (occurrence.codes keypad).length < occurrence.reads := by
  cases occurrence with
  | idle | failure => exact Nat.zero_lt_one
  | event heard =>
      cases heard with
      | other => exact Nat.zero_lt_one
      | resize size =>
          have most : ((Event.resize size).codes keypad).length ≤ 1 := by
            cases keypad with
            | true => exact Nat.le_refl 1
            | false => exact Nat.zero_le 1
          exact Nat.lt_succ_of_le most
      | key press released =>
          have codes : ((Event.key press released).codes keypad).length ≤
              (press.codes keypad).length := by
            cases released with
            | true => exact Nat.zero_le _
            | false => exact Nat.le_refl _
          have most : (press.codes keypad).length ≤
              max (press.codes true).length (press.codes false).length := by
            cases keypad with
            | true => exact Nat.le_max_left _ _
            | false => exact Nat.le_max_right _ _
          change ((Event.key press released).codes keypad).length < 1 + _
          omega

variable {start middle stop : Screen} {window : Handle} {keypad : Bool} {occurrence : Occurrence}

theorem Passes.pendingReads_lt
    (passes : Passes [occurrence] (occurrence.codes keypad) start middle) :
    middle.pendingReads < start.pendingReads := by
  have fewer := length_codes_lt_reads keypad occurrence
  have script : scriptReads start.device.events =
      occurrence.reads + scriptReads middle.device.events := by
    rw [passes.events]
    rfl
  rw [pendingReads_eq, pendingReads_eq, passes.queue, waiting_accept, script]
  omega

/-! ## Reads -/

theorem ends_takeCode_pending {returned : Option Code → Screen → Prop}
    {failed : Fault → Screen → Prop} (empty : start.queue.ready = [] → returned none start)
    (taken : ∀ code stop, stop.pendingReads < start.pendingReads → returned (some code) stop) :
    Ends takeCode start returned failed := by
  apply ends_takeCode empty
  intro code ready next
  apply taken
  simp [pendingReads_eq, waiting, next]

/-- A read that comes back has used up something, and none fails for lack of patience. -/
theorem awaitCode_pending (flags : Pane) (events : List Occurrence)
    (same : start.device.events = events) (there : (start.panes.get? window).isSome) :
    Ends (awaitCode window flags events) start
      (fun _ stop => stop.pendingReads < start.pendingReads) (fun _ _ => True) := by
  induction events generalizing start with
  | nil => trivial
  | cons occurrence rest induction =>
      cases occurrence with
      | failure => trivial
      | idle =>
          have passes : Passes [.idle] (Occurrence.idle.codes flags.keypad) start
              { start with device.events := rest } := setEvents_passes same
          have less := passes.pendingReads_lt
          rw [awaitCode, ends_bind, setEvents, ends_modify]
          split
          · exact less
          · have later := @induction { start with device.events := rest } rfl there
            apply later.mono
            · intro _ stop fewer
              exact Nat.lt_trans fewer less
            · intro _ _ _
              trivial
      | event heard =>
          rw [awaitCode_event, ends_bind]
          apply (event_passes heard same there).mono
          · rintro _ middle ⟨passes, there⟩
            have less : middle.pendingReads < start.pendingReads :=
              @Passes.pendingReads_lt _ _ flags.keypad (.event heard) passes
            rw [ends_bind]
            apply ends_takeCode_pending
            · intro _
              apply (induction (passes.remaining same) there).mono
              · intro _ stop fewer
                exact Nat.lt_trans fewer less
              · intro _ _ _
                trivial
            · intro code stop fewer
              exact Nat.lt_trans fewer less
          · intro _ _ _
            trivial

theorem readCode_pending (window : Handle) :
    Ends (readCode window) start (fun _ stop => stop.pendingReads < start.pendingReads)
      (fun _ _ => True) := by
  cases found : start.panes.get? window with
  | none =>
      simp only [readCode, Screen.pane, bind_assoc, ends_bind, ends_get, found, ends_throw]
  | some pane =>
      simp only [readCode, Screen.pane, bind_assoc, ends_bind, ends_get, found, ends_pure]
      apply ends_takeCode_pending
      · intro _
        rw [ends_bind, ends_get]
        exact awaitCode_pending pane _ rfl (by rw [found]; rfl)
      · intro code stop fewer
        exact fewer

/-! ## Calls -/

theorem perform_readInput_pending {code : Option Code} {notes : List Log.Entry}
    (read : perform (.readInput window) start = ⟨.ok code, stop, notes⟩) :
    stop.pendingReads < start.pendingReads := by
  have work : ∀ code, (perform (.readInput window) start).answer = .ok code →
      (perform (.readInput window) start).terminal.pendingReads < start.pendingReads := by
    apply perform_rule (motive := fun reply => ∀ code, reply.answer = .ok code →
      reply.terminal.pendingReads < start.pendingReads)
    apply (readCode_pending window).mono
    · intro _ stop fewer _ _
      exact fewer
    · intro _ _ _ _ answered
      cases answered
  rw [read] at work
  exact work code rfl

theorem Idle.pendingReads_le (idle : Idle start stop) : stop.pendingReads ≤ start.pendingReads := by
  rcases idle.events with ⟨count, events⟩
  rw [pendingReads_eq, pendingReads_eq, idle.queue, events]
  exact Nat.add_le_add_left (scriptReads_le_append _ _) _

/-- Calls that do not listen give nothing more to read. -/
theorem pendingReads_le_of_asked {start stop : Logged Screen}
    (asked : AskedOnly (fun call => Listens call = false) start stop) :
    stop.terminal.pendingReads ≤ start.terminal.pendingReads := by
  apply asked.preserves (motive := fun screen =>
    screen.pendingReads ≤ start.terminal.pendingReads) (Nat.le_refl _)
  intro called screen deaf fewer
  have idle : Idle screen (perform called screen).terminal :=
    perform_rule (motive := fun reply => Idle screen reply.terminal) (answer_idle deaf screen)
  exact Nat.le_trans idle.pendingReads_le fewer

end TerminalSession.Screen
