import TerminalSession.Proofs.FacadeRecorder
import TerminalSession.Proofs.FacadeScreen
import TerminalSession.Proofs.History
import TerminalSession.Proofs.LiveHandles
import TerminalSession.Proofs.ValidatedRun

/-! # Dry runs

Two terminals with the same facade are told apart by what they draw, but not by what they answer.
So a program that reads nothing does on both of them the same: a run on a recorder predicts the run
on a screen. -/

namespace TerminalSession

def Command.isRead : Command → Bool
  | act .getInput | act (.readAs _) => true
  | _ => false

variable {σ τ : Type} {α β : Type}

section

variable [Terminal σ] [FacadeTerminal σ] [Terminal τ] [FacadeTerminal τ]

structure Twins (facade : Facade) (first : σ) (second : τ) : Prop where
  sound : FacadeTerminal.Sound first
  otherSound : FacadeTerminal.Sound second
  shown : FacadeTerminal.facade first = facade
  otherShown : FacadeTerminal.facade second = facade

/-- On twins both pieces of work succeed with the same value, and leave twins. -/
def Together (facade : Facade) (work : Exchange σ α) (other : Exchange τ α)
    (returned : α → Facade → Prop) : Prop :=
  ∀ start origin, Twins facade start.terminal origin.terminal →
    ∃ value next stop last, work start = .ok value stop ∧ other origin = .ok value last ∧
      Twins next stop.terminal last.terminal ∧ returned value next

variable {shown : Facade}

namespace Together

theorem mono {work : Exchange σ α} {other : Exchange τ α} {returned weaker : α → Facade → Prop}
    (together : Together shown work other returned)
    (implies : ∀ value next, returned value next → weaker value next) :
    Together shown work other weaker := by
  intro start origin twins
  rcases together start origin twins with ⟨value, next, stop, last, done, did, after, holds⟩
  exact ⟨value, next, stop, last, done, did, after, implies value next holds⟩

theorem pure {value : α} {returned : α → Facade → Prop} (holds : returned value shown) :
    Together shown (Pure.pure value : Exchange σ α) (Pure.pure value : Exchange τ α) returned := by
  intro start origin twins
  exact ⟨value, shown, start, origin, rfl, rfl, twins, holds⟩

theorem bind {work : Exchange σ α} {other : Exchange τ α} {next : α → Exchange σ β}
    {following : α → Exchange τ β} {middle : α → Facade → Prop} {returned : β → Facade → Prop}
    (first : Together shown work other middle)
    (second : ∀ value facade, middle value facade →
      Together facade (next value) (following value) returned) :
    Together shown (work >>= next) (other >>= following) returned := by
  intro start origin twins
  rcases first start origin twins with ⟨value, facade, stop, last, done, did, after, holds⟩
  have rest := second value facade holds stop last after
  simp only [Bind.bind, EStateM.bind, done, did]
  exact rest

theorem tryCatch {work : Exchange σ α} {other : Exchange τ α} {returned : α → Facade → Prop}
    (together : Together shown work other returned) (recover : Failure → Exchange σ α)
    (rescue : Failure → Exchange τ α) :
    Together shown (tryCatch work recover) (tryCatch other rescue) returned := by
  intro start origin twins
  rcases together start origin twins with ⟨value, facade, stop, last, done, did, after⟩
  have caught : MonadExcept.tryCatch work recover start = EStateM.tryCatch work recover start := rfl
  have rescued : MonadExcept.tryCatch other rescue origin = EStateM.tryCatch other rescue origin :=
    rfl
  refine ⟨value, facade, stop, last, ?_, ?_, after⟩
  · rw [caught]
    delta EStateM.tryCatch
    rw [done]
  · rw [rescued]
    delta EStateM.tryCatch
    rw [did]

theorem note (level : Log.Level) (source : Log.Source) (message : String) :
    Together shown (Exchange.note level source message : Exchange σ Unit)
      (Exchange.note level source message : Exchange τ Unit) fun _ next => next = shown := by
  intro start origin twins
  exact ⟨(), shown, _, _, rfl, rfl, twins, rfl⟩

theorem call {called : Call} {given : called.Answer} (said : shown.answer? called = some given) :
    Together shown (Exchange.call called : Exchange σ called.Answer)
      (Exchange.call called : Exchange τ called.Answer)
      fun value next => value = given ∧ next = shown.after called := by
  intro start origin twins
  rcases start with ⟨first, log⟩
  rcases origin with ⟨second, other⟩
  have saidFirst : (FacadeTerminal.facade first).answer? called = some given := twins.shown ▸ said
  have saidSecond : (FacadeTerminal.facade second).answer? called = some given :=
    twins.otherShown ▸ said
  rcases FacadeTerminal.obeys twins.sound saidFirst with ⟨stop, notes, reply, sound, changed⟩
  rcases FacadeTerminal.obeys twins.otherSound saidSecond with
    ⟨last, reports, answer, otherSound, otherChanged⟩
  rw [twins.shown] at changed
  rw [twins.otherShown] at otherChanged
  refine ⟨given, shown.after called, ⟨stop, notes.reverse ++ log⟩, ⟨last, reports.reverse ++ other⟩,
    ?_, ?_, ⟨sound, otherSound, changed, otherChanged⟩, rfl, rfl⟩
  · simp only [Exchange.call, reply]
  · simp only [Exchange.call, answer]

theorem callWindow {called : Call} {window : Handle} (about : called.window? = some window)
    (there : shown.Has window) (calm : called.isCalm = true) :
    Together shown (Exchange.call called : Exchange σ called.Answer)
      (Exchange.call called : Exchange τ called.Answer) fun _ next => shown.Keeps next := by
  rcases Facade.calm_of_window about there calm with ⟨⟨given, said⟩, keeps⟩
  apply (call said).mono
  intro _ next made
  rw [made.2]
  exact keeps

theorem callTerminal {called : Call} {given : called.Answer}
    (said : shown.answer? called = some given) (still : shown.after called = shown) :
    Together shown (Exchange.call called : Exchange σ called.Answer)
      (Exchange.call called : Exchange τ called.Answer) fun _ next => shown.Keeps next := by
  apply (call said).mono
  intro _ next made
  rw [made.2, still]
  exact .refl shown

theorem keeping {work : Exchange σ α} {other : Exchange τ α} {next : α → Exchange σ β}
    {following : α → Exchange τ β}
    (first : Together shown work other fun _ middle => shown.Keeps middle)
    (second : ∀ value facade, shown.Keeps facade →
      Together facade (next value) (following value) fun _ last => facade.Keeps last) :
    Together shown (work >>= next) (other >>= following) fun _ last => shown.Keeps last := by
  apply first.bind
  intro value facade kept
  apply (second value facade kept).mono
  intro _ last still
  exact kept.trans still

end Together

end

namespace Machine

open Exchange (call note accept)

variable {shown : Facade} {bindings : Bindings} {session next : Session} {rest : List Command}

def Backed (facade : Facade) (bindings : Bindings) : Prop :=
  ∀ handle ∈ bindings.handles, facade.Has handle

def Affords (facade : Facade) (commands : List Command) : Prop :=
  facade.pairs.size + (commands.filterMap Command.addedColor?).length ≤ Screen.pairLimit

theorem Backed.handle (backed : Backed shown bindings) : shown.Has bindings.handle := by
  apply backed
  exact List.mem_map_of_mem (List.mem_append_right _ List.mem_cons_self)

theorem Backed.keeps {after : Bindings} {facade : Facade} (backed : Backed shown bindings)
    (kept : shown.Keeps facade) (same : after.handles = bindings.handles) :
    Backed facade after := by
  intro handle member
  rw [same] at member
  exact kept.windows handle (backed handle member)

theorem Affords.keeps {facade : Facade} (affords : Affords shown rest)
    (kept : shown.Keeps facade) : Affords facade rest := by
  rw [Affords, kept.pairs]
  exact affords

variable [Terminal σ] [FacadeTerminal σ] [Terminal τ] [FacadeTerminal τ]

def ReadyFor (rest : List Command) (answer : Outcome × Bindings) (facade : Facade) : Prop :=
  Backed facade answer.2 ∧ Affords facade rest

theorem returns_together {work : Exchange σ α} {other : Exchange τ α} {wrap : α → Outcome}
    {after : Bindings} (kept : Together shown work other fun _ facade => shown.Keeps facade)
    (backed : Backed shown bindings) (affords : Affords shown rest)
    (same : after.handles = bindings.handles) :
    Together shown (do return (wrap (← work), after)) (do return (wrap (← other), after))
      (ReadyFor rest) := by
  apply kept.bind
  intro value facade kept
  exact .pure ⟨backed.keeps kept same, affords.keeps kept⟩

theorem prepareWindow_together {window : Handle} (there : shown.Has window)
    (border : Option ResolvedBorder) :
    Together shown (prepareWindow window border : Exchange σ Unit)
      (prepareWindow window border : Exchange τ Unit) fun _ facade => shown.Keeps facade := by
  apply (Together.callWindow rfl there rfl).keeping
  intro _ shown' kept
  have there' := kept.windows window there
  apply (Together.callWindow rfl there' rfl).keeping
  intro _ shown'' kept
  cases border with
  | none => exact .pure (.refl shown'')
  | some border => exact .callWindow rfl (kept.windows window there') rfl

theorem createWindow_together (name : String) (position : Position) (size : Size)
    (border : Option ResolvedBorder) :
    Together shown (createWindow name position size border : Exchange σ Handle)
      (createWindow name position size border : Exchange τ Handle)
      fun window facade => shown.Keeps facade ∧ facade.Has window := by
  apply (Together.call rfl).bind
  intro window created made
  rcases made with ⟨rfl, rfl⟩
  have there := shown.has_createWindow size position
  apply ((prepareWindow_together there border).tryCatch _ _).bind
  intro _ facade kept
  exact .pure ⟨(shown.keeps_createWindow size position).trans kept, kept.windows _ there⟩

theorem allocateColor_together (name : String) (foreground background : Color)
    (free : shown.pairs.size < Screen.pairLimit) :
    Together shown (allocateColor bindings name foreground background : Exchange σ ColorPair)
      (allocateColor bindings name foreground background : Exchange τ ColorPair)
      fun _ facade => facade = shown.after (.allocatePair foreground background) := by
  have said : shown.answer? (.allocatePair foreground background) =
      some (shown.pairs.size + 1) := if_pos free
  have allocated : Together shown
      (do
        let pair ← call (.allocatePair foreground background)
        note .debug .machine ("Color '" ++ name ++ "' bound to pair " ++ toString pair)
        return pair : Exchange σ ColorPair)
      (do
        let pair ← call (.allocatePair foreground background)
        note .debug .machine ("Color '" ++ name ++ "' bound to pair " ++ toString pair)
        return pair : Exchange τ ColorPair)
      fun _ facade => facade = shown.after (.allocatePair foreground background) := by
    apply (Together.call said).bind
    intro pair facade made
    apply (Together.note _ _ _).bind
    intro _ facade' same
    exact .pure (same.trans made.2)
  by_cases first : bindings.colors.isEmpty = true
  · simp only [allocateColor, first, if_true]
    apply (Together.call rfl).bind
    intro _ facade made
    rw [made.2]
    exact allocated
  · simp only [allocateColor, first]
    exact allocated

theorem draw_together {window : Handle} (there : shown.Has window) (drawing : Drawing) :
    Together shown (draw window drawing : Exchange σ Unit)
      (draw window drawing : Exchange τ Unit) fun _ facade => shown.Keeps facade := by
  cases drawing with
  | line text =>
      apply (Together.callWindow rfl there rfl).keeping
      intro _ facade kept
      exact .callWindow rfl (kept.windows window there) rfl
  | _ => exact .callWindow rfl there rfl

/-- An action that is accepted and reads nothing. -/
theorem perform_together {action : Action} (backed : Backed shown bindings)
    (affords : Affords shown (.act action :: rest))
    (consistent : bindings.isConsistentWith session = true) (met : action.Met session)
    (updated : action.update session = .ok next)
    (readless : (Command.act action).isRead = false) :
    Together shown (perform session bindings action : Exchange σ (Outcome × Bindings))
      (perform session bindings action : Exchange τ (Outcome × Bindings)) (ReadyFor rest) := by
  have there := backed.handle
  cases action with
  | clear | erase | refresh | getPosition | getSize | setSize =>
      exact returns_together (.callWindow rfl there rfl) backed affords rfl
  | setEcho | setCbreak | setCursor =>
      exact returns_together (.callTerminal rfl rfl) backed affords rfl
  | setKeypad | setNoDelay =>
      apply returns_together (.callWindow rfl there rfl) backed affords
      exact Bindings.handles_modifyWindow ..
  | draw drawing => exact returns_together (draw_together there drawing) backed affords rfl
  | require requirement => exact .pure ⟨backed, affords⟩
  | getInput | readAs => cases readless
  | changeAttribute operation look =>
      rcases Bindings.resolveAttribute_of_met consistent met with ⟨native, resolved⟩
      simp only [perform, resolved]
      exact returns_together (.callWindow rfl there rfl) backed affords rfl
  | setWindow | unsetWindow =>
      rcases Bindings.setWindow_consistent consistent updated with ⟨after, moved, _⟩
      simp only [perform, Bindings.unsetWindow, moved]
      exact .pure ⟨backed.keeps (.refl shown) (Bindings.handles_setWindow moved), affords⟩
  | addWindow name position size border =>
      rcases resolveBorders_of_met consistent met with ⟨resolved, equal⟩
      simp only [perform, equal, pure_bind]
      apply (createWindow_together name position size resolved).bind
      intro window facade made
      apply Together.pure
      refine ⟨?_, affords.keeps made.1⟩
      intro handle member
      rw [Bindings.handles_addWindow] at member
      rcases List.mem_cons.mp member with rfl | older
      · exact made.2
      · exact made.1.windows handle (backed handle older)
  | addColor name foreground background =>
      -- the color is one of those that the commands add, so its pair was reckoned with
      have budget : shown.pairs.size + ((rest.filterMap Command.addedColor?).length + 1) ≤
        Screen.pairLimit := affords
      apply (allocateColor_together name foreground background (by omega)).bind
      intro pair facade allocated
      subst allocated
      apply Together.pure
      refine ⟨backed, ?_⟩
      have size : (shown.pairs.push (foreground, background)).size = shown.pairs.size + 1 :=
        Array.size_push ..
      change (shown.pairs.push (foreground, background)).size + _ ≤ _
      omega

theorem openSession_together :
    Together shown (openSession : Exchange σ Bindings) (openSession : Exchange τ Bindings)
      fun bound facade => Backed facade bound ∧ facade.pairs = shown.pairs := by
  apply (Together.call rfl).bind
  intro screen opened made
  rcases made with ⟨rfl, rfl⟩
  have there := shown.has_openSession
  apply (Together.callTerminal rfl rfl).bind
  intro _ second kept
  apply (Together.callWindow rfl (kept.windows _ there) rfl).bind
  intro _ third kept'
  have kept := kept.trans kept'
  apply (Together.callWindow rfl (kept.windows _ there) rfl).bind
  intro _ fourth kept'
  have kept := kept.trans kept'
  apply (Together.call rfl).bind
  intro keys fifth made
  rcases made with ⟨rfl, rfl⟩
  apply (Together.note _ _ _).bind
  intro _ last same
  subst same
  apply Together.pure
  refine ⟨?_, kept.pairs⟩
  intro handle member
  cases List.mem_singleton.mp member
  exact kept.windows _ there

theorem closeSession_together :
    Together shown (closeSession : Exchange σ Unit) (closeSession : Exchange τ Unit)
      fun _ facade => shown.Keeps facade := by
  apply (Together.callTerminal rfl rfl).keeping
  intro _ facade _
  apply (Together.note _ _ _).mono
  intro _ last same
  rw [same]
  exact .refl facade

structure Prepared (facade : Facade) (commands : List Command) (bound : Option Bindings) :
    Prop where
  windows : ∀ bindings, bound = some bindings → Backed facade bindings
  pairs : Affords facade commands

theorem Prepared.unbound (affords : Affords shown rest) : Prepared shown rest none := by
  refine ⟨?_, affords⟩
  intro _ same
  cases same

theorem Prepared.bound (backed : Backed shown bindings) (affords : Affords shown rest) :
    Prepared shown rest (some bindings) := by
  refine ⟨?_, affords⟩
  intro _ same
  cases same
  exact backed

theorem dispatch_together {phase after : Phase} {bound : Option Bindings} {command : Command}
    (inStep : InStep phase bound) (leads : command.Leads phase after)
    (prepared : Prepared shown (command :: rest) bound) (readless : command.isRead = false) :
    Together shown (dispatch phase bound command : Exchange σ (Outcome × Option Bindings))
      (dispatch phase bound command : Exchange τ (Outcome × Option Bindings))
      fun answer facade => Prepared facade rest answer.2 := by
  cases leads with
  | init options =>
      apply openSession_together.bind
      intro bound facade opened
      have affords : Affords facade rest := by
        rw [Affords, opened.2]
        exact prepared.pairs
      exact .pure (.bound opened.1 affords)
  | deinit session =>
      apply closeSession_together.bind
      intro _ facade kept
      exact .pure (.unbound (prepared.pairs.keeps kept))
  | act met updated =>
      cases inStep with
      | active consistent =>
          apply (perform_together (prepared.windows _ rfl) prepared.pairs consistent met updated
            readless).bind
          intro answer facade ready
          exact .pure (.bound ready.1 ready.2)

structure InTandem (facade : Facade) (machine : Machine σ) (other : Machine τ) : Prop where
  twins : Twins facade machine.host.terminal other.host.terminal
  phase : other.phase = machine.phase
  bindings : other.bindings = machine.bindings

omit [FacadeTerminal σ] in
theorem execute_of_dispatched {machine : Machine σ} {command : Command} {last : Phase}
    {answer : Outcome × Option Bindings} {stop : Logged σ}
    (accepted : command.apply machine.phase = .ok last)
    (done : (do
      note .debug .machine ("Executing " ++ command.text)
      dispatch machine.phase machine.bindings command) machine.host = .ok answer stop) :
    machine.execute command = (.ok answer.1, ⟨stop, last, answer.2⟩) := by
  simp only [execute, accepted, done]

theorem execute_together {machine : Machine σ} {other : Machine τ} {command : Command}
    {last : Phase} (tandem : InTandem shown machine other)
    (inStep : InStep machine.phase machine.bindings)
    (accepted : command.apply machine.phase = .ok last)
    (prepared : Prepared shown (command :: rest) machine.bindings)
    (readless : command.isRead = false) :
    ∃ outcome after after' facade, machine.execute command = (.ok outcome, after) ∧
      other.execute command = (.ok outcome, after') ∧ InTandem facade after after' ∧
      after.phase = last ∧ Prepared facade rest after.bindings := by
  rcases other with ⟨host, phase, bindings⟩
  rcases tandem with ⟨twins, rfl, rfl⟩
  have leads := (Command.apply_eq_ok_iff command machine.phase last).mp accepted
  have worked : Together shown
      (do
        note .debug .machine ("Executing " ++ command.text)
        dispatch machine.phase machine.bindings command : Exchange σ (Outcome × Option Bindings))
      (do
        note .debug .machine ("Executing " ++ command.text)
        dispatch machine.phase machine.bindings command : Exchange τ (Outcome × Option Bindings))
      fun answer facade => Prepared facade rest answer.2 := by
    apply (Together.note _ _ _).bind
    intro _ facade same
    subst same
    exact dispatch_together inStep leads prepared readless
  rcases worked machine.host host twins with
    ⟨answer, facade, stop, stop', done, did, stopped, after⟩
  exact ⟨answer.1, ⟨stop, last, answer.2⟩, ⟨stop', last, answer.2⟩, facade,
    execute_of_dispatched accepted done, execute_of_dispatched accepted did, ⟨stopped, rfl, rfl⟩,
    rfl, after⟩

/-- Commands that are accepted one after the other and read nothing. -/
theorem runAll_together {commands : List Command} {machine : Machine σ} {other : Machine τ}
    {last : Phase} (tandem : InTandem shown machine other)
    (inStep : InStep machine.phase machine.bindings)
    (followed : machine.phase.follow commands = .ok last)
    (prepared : Prepared shown commands machine.bindings)
    (readless : ∀ command ∈ commands, command.isRead = false) :
    ∃ outcomes after after' facade, machine.runAll commands = (.ok outcomes, after) ∧
      other.runAll commands = (.ok outcomes, after') ∧ InTandem facade after after' := by
  induction commands generalizing machine other shown with
  | nil => exact ⟨[], machine, other, shown, rfl, rfl, tandem⟩
  | cons command rest induction =>
      rcases (Phase.follow_cons_eq_ok_iff _ _ _ _).mp followed with ⟨next, accepted, restFollowed⟩
      rcases execute_together tandem inStep accepted prepared
          (readless command List.mem_cons_self) with
        ⟨outcome, middle, middle', facade, done, did, tandem', rfl, prepared'⟩
      have inStep' := (execute_inStep inStep command).1
      rw [done] at inStep'
      rcases induction tandem' inStep' restFollowed prepared'
          (fun later member => readless later (List.mem_cons_of_mem _ member)) with
        ⟨outcomes, after, after', last, ran, went, together⟩
      refine ⟨outcome :: outcomes, after, after', last, ?_, ?_, together⟩
      · simp only [runAll, done, ran]
        rfl
      · simp only [runAll, did, went]
        rfl

/-- A program that reads nothing and adds no more colors than there are pairs does the same on a
recorder and on a screen of the same size whose device takes everything: it succeeds with the same
outcomes, phase and bindings, and leaves windows that differ in nothing but their cursors. -/
theorem dry_run_predicts_live_run {commands : List Command} {program : Program}
    (validated : Program.validate commands = .ok program)
    (readless : ∀ command ∈ commands, command.isRead = false)
    (colors : (commands.filterMap Command.addedColor?).length ≤ 255)
    (size : Size) {device : Screen.Device} (room : device.output.room = none)
    (flushes : device.output.flushesLeft = none) :
    let dry := (Machine.new ({ screen := size } : Recorder)).run program
    let live := (Machine.new (Screen.headless device size)).run program
    (∃ outcomes, dry.1 = .ok outcomes ∧ live.1 = .ok outcomes) ∧
      live.2.phase = dry.2.phase ∧ live.2.bindings = dry.2.bindings ∧
      live.2.terminal.pairs = dry.2.terminal.pairs ∧
      ∀ window, (live.2.terminal.panes.get? window).map Pane.frame =
        (dry.2.terminal.panes.get? window).map Pane.frame := by
  intro dry live
  rcases (Program.validate_eq_ok_iff commands program).mp validated with ⟨rfl, last, followed⟩
  have start : ({ screen := size } : Recorder).facade = (Screen.headless device size).facade := rfl
  have tandem : InTandem (Screen.headless device size).facade
      (Machine.new ({ screen := size } : Recorder)) (Machine.new (Screen.headless device size)) :=
    ⟨⟨rfl, ⟨room, flushes, rfl⟩, start, rfl⟩, rfl, rfl⟩
  have affords : Affords (Screen.headless device size).facade commands :=
    le_of_eq_of_le (Nat.zero_add _) colors
  rcases runAll_together tandem .inactive followed (.unbound affords) readless with
    ⟨outcomes, after, after', facade, ran, went, ended⟩
  have dryEnd : dry = (.ok outcomes, after) := ran
  have liveEnd : live = (.ok outcomes, after') := went
  rw [dryEnd, liveEnd]
  have shows : after'.terminal.facade = after.terminal.facade :=
    ended.twins.otherShown.trans ended.twins.shown.symm
  refine ⟨⟨outcomes, rfl, rfl⟩, ended.phase, ended.bindings, congrArg Facade.pairs shows, ?_⟩
  intro window
  exact congrFun (congrArg Facade.frames shows) window

def twoSessions : List Command :=
  [.init {}, .act (.addColor "ink" .red .black), .deinit,
    .init {}, .act (.addColor "paper" .white .blue),
    .act (.addWindow "log" ⟨1, 2⟩ ⟨4, 9⟩ (some { glyphs := .ascii, color := some ⟨"paper"⟩ })),
    .act (.setWindow "log"), .act (.changeAttribute .set (.color ⟨"paper"⟩)),
    .act (.draw (.line "hello")), .act (.setSize ⟨3, 7⟩), .act (.setKeypad false), .act .getSize]

/-- The size and the rendition of the second window are those that the dry run says. -/
theorem dry_run_predicts_two_sessions :
    let live := (Machine.new (Screen.headless {} ⟨24, 80⟩)).run ⟨twoSessions⟩
    Program.validate twoSessions = .ok ⟨twoSessions⟩ ∧
      (∀ command ∈ twoSessions, command.isRead = false) ∧
      (twoSessions.filterMap Command.addedColor?).length ≤ 255 ∧
      live.1 = .ok (.replicate 11 .unit ++ [.size ⟨3, 7⟩]) ∧
      (live.2.terminal.panes.get? 1).map Pane.frame =
        some { origin := ⟨1, 2⟩, size := ⟨3, 7⟩, rendition := { pair := 2 } } := by
  intro live
  have validated : Program.validate twoSessions = .ok ⟨twoSessions⟩ := rfl
  have readless : ∀ command ∈ twoSessions, command.isRead = false := by decide
  have colors : (twoSessions.filterMap Command.addedColor?).length ≤ 255 := by decide
  let dry := (Machine.new ({ screen := ⟨24, 80⟩ } : Recorder)).run ⟨twoSessions⟩
  have said : dry.1 = .ok (.replicate 11 .unit ++ [.size ⟨3, 7⟩]) := by decide +kernel
  have framed : (dry.2.terminal.panes.get? 1).map Pane.frame =
      some { origin := ⟨1, 2⟩, size := ⟨3, 7⟩, rendition := { pair := 2 } } := by decide +kernel
  have empty : ({} : Screen.Device).output.room = none := rfl
  rcases dry_run_predicts_live_run validated readless colors ⟨24, 80⟩ empty rfl with
    ⟨⟨outcomes, ran, went⟩, _, _, _, frames⟩
  have same : outcomes = .replicate 11 .unit ++ [.size ⟨3, 7⟩] :=
    Except.ok.inj (ran.symm.trans said)
  exact ⟨validated, readless, colors, went.trans (congrArg Except.ok same),
    (frames 1).trans framed⟩

end Machine

end TerminalSession
