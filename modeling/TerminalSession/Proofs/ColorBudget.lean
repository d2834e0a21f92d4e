import TerminalSession.Proofs.ColorPairs
import TerminalSession.Proofs.History
import TerminalSession.Proofs.ScreenWork

/-! # The budget of colors

A screen has room for a limited number of color pairs. Colors belong to a session and are gone with
it; the pairs they took belong to the screen, and stay. So all sessions on a screen share one
budget, and a session has what the earlier ones left of it. -/

namespace TerminalSession

namespace Screen

/-! ## What becomes of the pairs

Whatever a screen is asked for but a pair, its pairs stay what they are. If no pair is left, that is
the failure. -/

def SamePairs (before after : Screen) : Prop := after.pairs = before.pairs

instance : Std.Refl SamePairs := ⟨fun _ => rfl⟩

instance : IsTrans Screen SamePairs := ⟨fun _ _ _ first second => second.trans first⟩

theorem samePairs_drawing : IgnoresDrawing SamePairs := ⟨fun _ _ => rfl, fun _ _ => rfl⟩

end Screen

def Call.allocates : Call → Bool
  | allocatePair .. => true
  | _ => false

theorem Call.allocates_of_quiet {call : Call} (quiet : call.showsColors = false) :
    call.allocates = false := by
  cases call with
  | allocatePair foreground background => cases quiet
  | _ => rfl

theorem Action.MayAsk.allocates {bindings : Bindings} {action : Action} {call : Call}
    (may : action.MayAsk bindings call) (colorless : (Command.act action).addedColor? = none) :
    call.allocates = false := by
  cases call with
  | allocatePair foreground background =>
      rcases may with ⟨name, rfl⟩
      cases colorless
  | _ => rfl

namespace Screen

variable {call : Call} {screen : Screen} {foreground background : Color}

theorem answer_samePairs (plain : call.allocates = false) : Leaves SamePairs (answer call) := by
  have drawing := samePairs_drawing
  have rewired : ∀ (screen : Screen) (device : Device), SamePairs screen { screen with device } :=
    fun _ _ => rfl
  have writing : ∀ instruction, (∀ text, instruction ≠ .print text) →
      Leaves SamePairs (write instruction) :=
    fun instruction _ => Leaves.write drawing.output instruction
  have flushing := Leaves.flush drawing.output
  have switching := Leaves.switchRawMode rewired
  cases call with
  | openSession =>
      exact Leaves.openSession writing flushing switching (fun _ _ => rfl) fun _ => rfl
  | closeSession => exact Leaves.closeSession writing flushing switching fun _ => rfl
  | setRawMode cbreak echo => exact Leaves.modify fun _ => rfl
  | destroyWindow window => exact Leaves.pane_bind window fun _ => Leaves.modify fun _ => rfl
  | readInput window =>
      have taken : ∀ codes, Leaves SamePairs (takeIn window codes) :=
        Leaves.takeIn (drawing.ofWindow window) fun _ _ => rfl
      have told : ∀ keypad heard, Leaves SamePairs (codesOf keypad heard) :=
        Leaves.codesOf fun _ _ _ => rfl
      exact Leaves.readCode (fun _ _ => rfl) (fun _ _ => rfl) told taken
  | allocatePair => cases plain
  | _ => exact Leaves.answer drawing rfl

theorem perform_samePairs (plain : call.allocates = false) (screen : Screen) :
    (perform call screen).terminal.pairs = screen.pairs := by
  apply perform_rule (motive := fun reply => reply.terminal.pairs = screen.pairs)
  exact answer_samePairs plain screen

theorem perform_allocatePair_free (free : screen.pairs.size < pairLimit) :
    perform (.allocatePair foreground background) screen =
      ⟨.ok (screen.pairs.size + 1),
        { screen with pairs := screen.pairs.push (foreground, background) }, []⟩ := by
  apply perform_rule (motive := fun reply => reply = _)
  simp only [answer, ends_bind, ends_get, free, if_true, ends_modify, ends_pure]
  rfl

theorem perform_allocatePair_full (full : pairLimit ≤ screen.pairs.size) :
    perform (.allocatePair foreground background) screen =
      ⟨.error .colorPairsExhausted, screen, []⟩ := by
  apply perform_rule (motive := fun reply => reply = _)
  simp only [answer, ends_bind, ends_get, Nat.not_lt.mpr full, if_false, ends_throw]

theorem samePairs_of_asked {start stop : Logged Screen}
    (asked : AskedOnly (fun call => call.allocates = false) start stop) :
    stop.terminal.pairs = start.terminal.pairs := by
  apply asked.preserves (motive := fun screen => screen.pairs = start.terminal.pairs) rfl
  intro called screen plain same
  exact (perform_samePairs plain screen).trans same

end Screen

/-! ## Commands

A color is registered by an action of its own, and takes the next pair if there is one left. -/

namespace Screen

def TakesPair (pair : Color × Color) (start stop : Screen) : Prop :=
  start.pairs.size < pairLimit ∧ stop.pairs = start.pairs.push pair

def LacksPair (failure : Failure) (start stop : Screen) : Prop :=
  failure = .fault .colorPairsExhausted ∧ pairLimit ≤ start.pairs.size ∧ stop.pairs = start.pairs

end Screen

theorem Action.colors_update {action : Action} {session next : Session}
    (updated : action.update session = .ok next) :
    next.colors = (Command.act action).addedColor?.toList ++ session.colors := by
  cases action with
  | addWindow name position size border =>
      cases Session.addWindow_eq_ok updated
      rfl
  | setWindow name =>
      rcases Session.setWindow_eq_ok updated with ⟨windows, _, rfl⟩
      rfl
  | unsetWindow =>
      rcases Session.setWindow_eq_ok updated with ⟨windows, _, rfl⟩
      rfl
  | addColor name foreground background =>
      cases Session.addColor_eq_ok updated
      rfl
  | _ =>
      cases updated
      rfl

inductive Command.Takes (start stop : Screen) : Command → Prop
  | color (name : String) {foreground background : Color}
      (taken : Screen.TakesPair (foreground, background) start stop) :
      Takes start stop (.act (.addColor name foreground background))
  | other {command : Command} (colorless : command.addedColor? = none)
      (same : stop.pairs = start.pairs) : Takes start stop command

namespace Machine

open Screen

variable {session : Session} {bindings : Bindings} {host : Logged Screen}

theorem allocatePair_takes (foreground background : Color) :
    Ends (Exchange.call (.allocatePair foreground background)) host
      (fun _ stop => TakesPair (foreground, background) host.terminal stop.terminal)
      (fun failure stop => LacksPair failure host.terminal stop.terminal) := by
  cases Nat.lt_or_ge host.terminal.pairs.size pairLimit with
  | inl free =>
      have replied : Terminal.perform (.allocatePair foreground background) host.terminal = _ :=
        perform_allocatePair_free free
      apply Exchange.ends_call
      · intro pair stop notes log given
        cases replied.symm.trans given
        exact ⟨free, rfl⟩
      · intro fault stop notes log denied
        cases replied.symm.trans denied
  | inr full =>
      have replied : Terminal.perform (.allocatePair foreground background) host.terminal = _ :=
        perform_allocatePair_full full
      apply Exchange.ends_call
      · intro pair stop notes log given
        cases replied.symm.trans given
      · intro fault stop notes log denied
        cases replied.symm.trans denied
        exact ⟨rfl, full, rfl⟩

/-- A color takes the next pair if there is one left, and otherwise that is what it fails for. -/
theorem allocateColor_takes (name : String) (foreground background : Color) :
    Ends (allocateColor bindings name foreground background) host
      (fun _ stop => TakesPair (foreground, background) host.terminal stop.terminal)
      (fun failure stop => LacksPair failure host.terminal stop.terminal) := by
  unfold allocateColor
  split
  · rw [ends_bind]
    apply Exchange.ends_call
    · intro _ stop notes log started
      cases started
      rw [ends_bind]
      exact allocatePair_takes foreground background
    · intro fault stop notes log denied
      cases denied
  · rw [ends_bind]
    exact allocatePair_takes foreground background

theorem takes_of_plain {α : Type} {work : Exchange Screen α} {command : Command}
    (colorless : command.addedColor? = none)
    (only : AsksOnly (fun call => call.allocates = false) work) :
    Ends work host (fun _ stop => command.Takes host.terminal stop.terminal)
      (fun _ stop => stop.terminal.pairs = host.terminal.pairs) := by
  apply (only host).mono
  · intro _ _ asked
    exact .other colorless (samePairs_of_asked asked)
  · intro _ _ asked
    exact samePairs_of_asked asked

theorem perform_takes (action : Action) :
    Ends (perform session bindings action) host
      (fun _ stop => (Command.act action).Takes host.terminal stop.terminal)
      (fun _ stop => stop.terminal.pairs = host.terminal.pairs) := by
  cases colorless : (Command.act action).addedColor? with
  | none =>
      exact takes_of_plain colorless
        ((perform_asksOnly session bindings action).imp fun _ may => may.allocates colorless)
  | some name =>
      cases action with
      | addColor name foreground background =>
          simp only [perform, bind_pure_comp, ends_map]
          apply (allocateColor_takes name foreground background).mono
          · intro _ _ taken
            exact .color name taken
          · intro _ _ failed
            exact failed.2.2
      | _ => cases colorless

theorem dispatch_takes {phase next : Phase} {bound : Option Bindings} {command : Command}
    (inStep : InStep phase bound) (leads : command.Leads phase next) :
    Ends (dispatch phase bound command) host
      (fun _ stop => command.Takes host.terminal stop.terminal)
      (fun _ stop => stop.terminal.pairs = host.terminal.pairs) := by
  cases leads with
  | init options =>
      simp only [dispatch, bind_pure_comp, ends_map]
      exact takes_of_plain rfl
        (Diary.openSession_quiet.imp fun _ quiet => Call.allocates_of_quiet quiet)
  | deinit session =>
      simp only [dispatch, bind_pure_comp, ends_map]
      exact takes_of_plain rfl (.bind (.call rfl) fun _ => .note _ _ _)
  | act met updated =>
      cases inStep with
      | active consistent =>
          simp only [dispatch, bind_pure_comp, ends_map]
          exact perform_takes _

/-! ## Counting the colors

The colors of the sessions before are counted apart from those of the latest one. Between two steps
the screen may get another device. -/

structure ColorCount where
  earlier : Nat := 0
  here : Nat := 0

namespace ColorCount

def total (count : ColorCount) : Nat := count.earlier + count.here

def after (count : ColorCount) : Command → ColorCount
  | .init _ => ⟨count.total, 0⟩
  | .act (.addColor ..) => { count with here := count.here + 1 }
  | _ => count

variable {count : ColorCount} {phase next : Phase} {command : Command}

theorem total_after (count : ColorCount) (command : Command) :
    (count.after command).total = count.total + command.addedColor?.toList.length := by
  cases command with
  | init options => rfl
  | deinit => rfl
  | act action =>
      cases action with
      | addColor name foreground background => rfl
      | _ => rfl

theorem here_after (leads : command.Leads phase next)
    (known : ∀ session, phase = .active session → session.colors.length = count.here) :
    ∀ session, next = .active session → session.colors.length = (count.after command).here := by
  rintro session rfl
  cases leads with
  | init options => rfl
  | @act action session next met updated =>
      have before := known _ rfl
      rw [Action.colors_update updated]
      cases action with
      | addColor name foreground background => exact congrArg (· + 1) before
      | _ => exact before

end ColorCount

inductive Counted : ColorCount → Machine Screen → Prop
  | new (screen : Screen) (unpaired : screen.pairs = #[]) : Counted {} (.new screen)
  | execute {count : ColorCount} {machine : Machine Screen} (counted : Counted count machine)
      (command : Command) :
      Counted (if (machine.execute command).1.isOk then count.after command else count)
        (machine.execute command).2
  | read {count : ColorCount} {machine : Machine Screen} (counted : Counted count machine)
      (shape : ReadShape) : Counted count (machine.read shape).2
  | rewire {count : ColorCount} {machine : Machine Screen} (counted : Counted count machine)
      (device : Device) :
      Counted count
        { machine with host := { machine.host with terminal := { machine.terminal with device } } }

structure Balanced (count : ColorCount) (machine : Machine Screen) : Prop where
  inStep : InStep machine.phase machine.bindings
  pairs : machine.terminal.pairs.size = count.total
  limited : count.total ≤ pairLimit
  colors : ∀ session, machine.phase = .active session → session.colors.length = count.here

variable {count : ColorCount} {machine : Machine Screen}

/-- A step that takes no pair and leaves the phase keeps the balance. -/
theorem Balanced.of_same (balanced : Balanced count machine) {stop : Logged Screen}
    (same : stop.terminal.pairs = machine.terminal.pairs) :
    Balanced count { machine with host := stop } where
  inStep := balanced.inStep
  pairs := (congrArg Array.size same).trans balanced.pairs
  limited := balanced.limited
  colors := balanced.colors

theorem Balanced.of_taken (balanced : Balanced count machine) {command : Command} {next : Phase}
    {bound : Option Bindings} {stop : Logged Screen} (leads : command.Leads machine.phase next)
    (inStep : InStep next bound) (takes : command.Takes machine.terminal stop.terminal) :
    Balanced (count.after command) ⟨stop, next, bound⟩ := by
  have before := balanced.pairs
  have pairs : stop.terminal.pairs.size = (count.after command).total ∧
      (count.after command).total ≤ pairLimit := by
    rw [count.total_after]
    cases takes with
    | color name taken =>
        rcases taken with ⟨free, added⟩
        rw [added, Array.size_push, before]
        rw [before] at free
        exact ⟨rfl, free⟩
    | other colorless same =>
        rw [same, before, colorless]
        exact ⟨rfl, balanced.limited⟩
  exact ⟨inStep, pairs.1, pairs.2, ColorCount.here_after leads balanced.colors⟩

theorem Balanced.execute (balanced : Balanced count machine) (command : Command) :
    Balanced (if (machine.execute command).1.isOk then count.after command else count)
      (machine.execute command).2 := by
  apply execute_rule machine command
    (motive := fun step => Balanced (if step.1.isOk then count.after command else count) step.2)
  · intro refusal refused
    exact balanced
  · intro next log leads
    have inStep := balanced.inStep
    apply (Ends.and (dispatch_lockStep inStep leads) (dispatch_takes inStep leads)).mono
    · rintro answer stop ⟨kept, takes⟩
      exact balanced.of_taken leads kept.2 takes
    · rintro failure stop ⟨_, same⟩
      exact balanced.of_same same

theorem Balanced.read (balanced : Balanced count machine) (shape : ReadShape) :
    Balanced count (machine.read shape).2 := by
  apply read_rule machine shape (motive := fun step => Balanced count step.2)
  · intro refusal
    exact balanced
  · intro session bindings running bound
    have only : AsksOnly (fun call => call.allocates = false)
        (readBound bindings shape : Exchange Screen shape.Value) := readBound_asksOnly rfl
    apply (only machine.host).mono
    · intro _ stop asked
      exact balanced.of_same (samePairs_of_asked asked)
    · intro _ stop asked
      exact balanced.of_same (samePairs_of_asked asked)

theorem Counted.balanced (counted : Counted count machine) : Balanced count machine := by
  induction counted with
  | new screen unpaired =>
      refine ⟨.inactive, ?_, Nat.zero_le _, ?_⟩
      · exact congrArg Array.size unpaired
      · rintro session ⟨⟩
  | execute counted command induction => exact induction.execute command
  | read counted shape induction => exact induction.read shape
  | rewire counted device induction => exact induction.of_same rfl

/-- The colors of all sessions on a screen, those that are over included, share one budget of pairs.
A color that is accepted gets a pair as long as the sessions together have registered fewer colors
than there can be pairs, and from then on none does, in whatever session. -/
theorem sessions_share_color_budget (counted : Counted count machine) :
    machine.terminal.pairs.size = count.earlier + count.here ∧
      count.earlier + count.here ≤ pairLimit ∧
      ∀ session, machine.phase = .active session → session.colors.length = count.here ∧
        ∀ name foreground background,
          let command : Command := .act (.addColor name foreground background)
          (command.apply machine.phase).isOk = true →
            (machine.execute command).1 =
              if session.colors.length < pairLimit - count.earlier then .ok .unit
              else .error (.fault .colorPairsExhausted) := by
  have balanced := counted.balanced
  have pairs : machine.terminal.pairs.size = count.earlier + count.here := balanced.pairs
  have limited : count.earlier + count.here ≤ pairLimit := balanced.limited
  refine ⟨pairs, limited, ?_⟩
  intro session running
  have colors := balanced.colors session running
  refine ⟨colors, ?_⟩
  intro name foreground background command accepted
  rcases balanced.inStep.bound running with ⟨bindings, bound, _⟩
  rw [colors]
  apply execute_rule machine command (motive := fun step => step.1 = _)
  · intro refusal refused
    rw [refused] at accepted
    cases accepted
  · intro next log leads
    rw [running, bound]
    simp only [dispatch, perform, bind_pure_comp, ends_map, command]
    apply (allocateColor_takes name foreground background).mono
    · rintro _ stop ⟨free, _⟩
      have free : machine.terminal.pairs.size < pairLimit := free
      rw [if_pos (by omega)]
    · rintro _ stop ⟨rfl, full, _⟩
      have full : pairLimit ≤ machine.terminal.pairs.size := full
      rw [if_neg (by omega)]

/-- The color of the first session is gone in the second, but not its pair. -/
theorem second_session_has_one_pair_less :
    let red : Command := .act (.addColor "red" .red .black)
    let first := (execute (execute (.new (headless {} ⟨2, 4⟩)) (.init {})).2 red).2
    let second := (execute (execute first .deinit).2 (.init {})).2
    Counted ⟨1, 0⟩ second ∧ second.phase = .active (.fresh {}) ∧ second.terminal.pairs.size = 1 ∧
      (second.execute red).1 = .ok .unit := by
  intro red first second
  have counted : Counted ⟨1, 0⟩ second :=
    .execute (.execute (.execute (.execute (.new (headless {} ⟨2, 4⟩) rfl) (.init {})) red) .deinit)
      (.init {})
  rcases sessions_share_color_budget counted with ⟨pairs, _, sessions⟩
  have added := (sessions (.fresh {}) rfl).2 "red" .red .black rfl
  exact ⟨counted, rfl, pairs, added⟩

/-- A first session that registers as many colors as there can be pairs leaves none for the
second. -/
theorem second_session_gets_no_color :
    ¬ ∀ (screen : Screen) (commands : List Command) (session : Session) (name : String)
        (foreground background : Color),
      screen.ownsDevice = false → screen.pairs = #[] →
      let machine := ((new screen).runAll commands).2
      let command : Command := .act (.addColor name foreground background)
      machine.phase = .active session → session.colors.length < pairLimit →
        (command.apply machine.phase).isOk = true →
          (machine.execute command).1 ≠ .error (.fault .colorPairsExhausted) := by
  intro always
  let red : Command := .act (.addColor "red" .red .black)
  let commands : List Command :=
    .init {} :: List.replicate 255 red ++ [.deinit, .init {}]
  have added := always (headless {} ⟨2, 4⟩) commands (.fresh {}) "red" .red .black rfl rfl
    (by decide +kernel) (by decide) (by decide +kernel)
  exact added (by decide +kernel)

end Machine

end TerminalSession
