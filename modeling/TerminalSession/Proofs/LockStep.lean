import TerminalSession.Proofs.Consistency
import TerminalSession.Proofs.Execution
import TerminalSession.Recorder

/-! # Session and bindings in step

The phase says what a machine may do, the bindings say how its terminal does it. No command and no
read takes them apart: either both move on together, or both stay where they were. -/

namespace TerminalSession

/-- What an outcome is, without what it says. An input is known by its shape. -/
inductive OutcomeKind where
  | unit | position | size
  | input (shape : ReadShape)
deriving DecidableEq, Repr

def Outcome.kind : Outcome → OutcomeKind
  | .unit => .unit
  | .position _ => .position
  | .size _ => .size
  | .input delivered => .input delivered.shape

def Action.outcomeKind (action : Action) (session : Session) : OutcomeKind :=
  match action with
  | .getPosition => .position
  | .getSize => .size
  | .getInput | .readAs _ => .input session.shape
  | _ => .unit

def Command.outcomeKind (command : Command) (phase : Phase) : OutcomeKind :=
  match command, phase with
  | .act action, .active session => action.outcomeKind session
  | _, _ => .unit

namespace Machine

open Exchange

variable {τ : Type} [Terminal τ]

/-! ## Actions -/

section

variable {bindings : Bindings} {session next : Session} {host : Logged τ}

def Faulty (failure : Failure) : Prop := ∃ fault, failure = .fault fault

theorem ends_call_faulty {called : Call} {returned : called.Answer → Logged τ → Prop}
    (answered : ∀ answer stop, returned answer stop) :
    Ends (call called) host returned (fun failure _ => Faulty failure) :=
  ends_call (fun answer _ _ _ _ => answered answer _) (fun fault _ _ _ _ => ⟨fault, rfl⟩)

theorem prepareWindow_faulty (window : Handle) (border : Option ResolvedBorder)
    {returned : Unit → Logged τ → Prop} (answered : ∀ stop, returned () stop) :
    Ends (prepareWindow window border) host returned (fun failure _ => Faulty failure) := by
  simp only [prepareWindow, ends_bind]
  refine ends_call_faulty fun _ _ => ends_call_faulty fun _ stop => ?_
  cases border with
  | none => exact answered stop
  | some border => exact ends_call_faulty fun _ => answered

theorem createWindow_faulty (name : String) (position : Position) (size : Size)
    (border : Option ResolvedBorder) {returned : Handle → Logged τ → Prop}
    (answered : ∀ window stop, returned window stop) :
    Ends (createWindow name position size border) host returned
      (fun failure _ => Faulty failure) := by
  simp only [createWindow, ends_bind, bind_pure_comp, ends_map, ends_tryCatch, ends_throw,
    ends_note]
  refine ends_call_faulty fun window created => ?_
  refine (prepareWindow_faulty window border (answered window)).mono (fun _ _ => id)
    fun failure stop faulty => ?_
  -- whether the window can be given back or not, the first failure is the one that counts
  exact ends_call (fun _ _ _ _ _ => faulty) (fun _ _ _ _ _ => faulty)

theorem allocateColor_faulty (name : String) (foreground background : Color)
    {returned : ColorPair → Logged τ → Prop} (answered : ∀ pair stop, returned pair stop) :
    Ends (allocateColor bindings name foreground background) host returned
      (fun failure _ => Faulty failure) := by
  simp only [allocateColor]
  split
  all_goals simp only [ends_bind, bind_pure_comp, ends_map, ends_note]
  · exact ends_call_faulty fun _ _ => ends_call_faulty fun pair _ => answered pair _
  · exact ends_call_faulty fun pair _ => answered pair _

theorem draw_faulty (window : Handle) (drawing : Drawing) {returned : Unit → Logged τ → Prop}
    (answered : ∀ stop, returned () stop) :
    Ends (draw window drawing) host returned (fun failure _ => Faulty failure) := by
  cases drawing with
  | line text =>
      simp only [draw, ends_bind]
      exact ends_call_faulty fun _ _ => ends_call_faulty fun _ => answered
  | _ => exact ends_call_faulty fun _ => answered

theorem readCurrent_faulty {returned : Input → Logged τ → Prop}
    (answered : ∀ input stop, input.shape = bindings.current.window.shape → returned input stop) :
    Ends (readCurrent bindings) host returned (fun failure _ => Faulty failure) := by
  simp only [readCurrent, ends_bind]
  refine ends_call_faulty fun delivered stop => ?_
  cases resolved : bindings.current.window.shape.resolve delivered bindings.keys with
  | none => exact ⟨.noInput, rfl⟩
  | some input =>
      rcases Option.map_eq_some_iff.mp resolved with ⟨value, _, wrapped⟩
      exact answered input stop (wrapped ▸ ReadShape.shape_wrap _ value)

/-- The border of an accepted window has its color bound, on whatever terminal it will be drawn. -/
theorem resolveBorders_of_met (consistent : bindings.isConsistentWith session = true)
    {name : String} {position : Position} {size : Size} {border : Option Border}
    (met : (Action.addWindow name position size border).Met session) :
    ∃ resolved, ∀ host : Type, (border.mapM fun border =>
      accept (τ := host) (bindings.resolveBorder border)) = pure resolved := by
  cases border with
  | none => exact ⟨none, fun _ => rfl⟩
  | some border =>
      rcases Bindings.resolveBorder_of_met consistent met with ⟨resolved, equal⟩
      refine ⟨some resolved, ?_⟩
      intro host
      rw [Option.mapM_some, equal]
      rfl

/-- An accepted action returns what it is meant to return and leaves bindings that fit the session
after it. If it does not succeed, that is the terminal's doing. -/
theorem perform_lockStep {action : Action}
    (consistent : bindings.isConsistentWith session = true) (met : action.Met session)
    (updated : action.update session = .ok next) :
    Ends (perform session bindings action) host
      (fun answer _ => answer.1.kind = action.outcomeKind session ∧
        answer.2.isConsistentWith next = true)
      (fun failure _ => Faulty failure) := by
  cases action with
  | addWindow name position size border =>
      rcases resolveBorders_of_met consistent met with ⟨resolved, equal⟩
      simp only [perform, equal, pure_bind, bind_pure_comp, ends_map]
      exact createWindow_faulty name position size resolved fun window _ =>
        ⟨rfl, Bindings.addWindow_consistent consistent updated resolved window⟩
  | setWindow name =>
      rcases Bindings.setWindow_consistent consistent updated with ⟨after, moved, fits⟩
      simp only [perform, moved, ends_bind, ends_accept, ends_pure]
      exact ⟨rfl, fits⟩
  | unsetWindow =>
      rcases Bindings.setWindow_consistent consistent updated with ⟨after, moved, fits⟩
      simp only [perform, Bindings.unsetWindow, moved, ends_bind, ends_accept, ends_pure]
      exact ⟨rfl, fits⟩
  | addColor name foreground background =>
      simp only [perform, bind_pure_comp, ends_map]
      exact allocateColor_faulty name foreground background fun pair _ =>
        ⟨rfl, Bindings.addColor_consistent consistent updated pair⟩
  | changeAttribute operation look =>
      cases updated
      rcases Bindings.resolveAttribute_of_met consistent met with ⟨native, equal⟩
      simp only [perform, equal, ends_bind, ends_accept, bind_pure_comp, ends_map]
      exact ends_call_faulty fun _ _ => ⟨rfl, consistent⟩
  | draw drawing =>
      cases updated
      simp only [perform, bind_pure_comp, ends_map]
      exact draw_faulty bindings.handle drawing fun _ => ⟨rfl, consistent⟩
  | setKeypad on =>
      cases updated
      simp only [perform, bind_pure_comp, ends_map]
      exact ends_call_faulty fun _ _ => ⟨rfl, Bindings.setKeypad_consistent consistent on⟩
  | setNoDelay on =>
      cases updated
      simp only [perform, bind_pure_comp, ends_map]
      exact ends_call_faulty fun _ _ => ⟨rfl, Bindings.setNoDelay_consistent consistent on⟩
  | setEcho on =>
      cases updated
      simp only [perform, bind_pure_comp, ends_map]
      exact ends_call_faulty fun _ _ => ⟨rfl, consistent⟩
  | setCbreak on =>
      cases updated
      simp only [perform, bind_pure_comp, ends_map]
      exact ends_call_faulty fun _ _ => ⟨rfl, consistent⟩
  | getInput | readAs shape =>
      cases updated
      simp only [perform, bind_pure_comp, ends_map]
      refine readCurrent_faulty fun input _ sameShape => ⟨?_, consistent⟩
      rw [Bindings.current_window_eq consistent] at sameShape
      exact congrArg OutcomeKind.input sameShape
  | require requirement =>
      cases updated
      exact ⟨rfl, consistent⟩
  | clear | erase | refresh | getPosition | getSize | setSize | setCursor =>
      cases updated
      simp only [perform, bind_pure_comp, ends_map]
      exact ends_call_faulty fun _ _ => ⟨rfl, consistent⟩

end

/-! ## Commands

A command is refused and nothing happens, or it succeeds, or the terminal fails. A failure leaves
phase and bindings as they were; a refusal leaves everything as it was, the terminal included. -/

inductive InStep : Phase → Option Bindings → Prop
  | inactive : InStep .inactive none
  | active {session : Session} {bindings : Bindings}
      (consistent : bindings.isConsistentWith session = true) :
      InStep (.active session) (some bindings)

omit [Terminal τ] in
theorem InStep.bound {phase : Phase} {bindings : Option Bindings} {session : Session}
    (inStep : InStep phase bindings) (running : phase = .active session) :
    ∃ bound, bindings = some bound ∧ bound.isConsistentWith session = true := by
  cases inStep with
  | inactive => cases running
  | active consistent =>
      cases running
      exact ⟨_, rfl, consistent⟩

omit [Terminal τ] in
theorem isConsistent_iff (machine : Machine τ) :
    machine.isConsistent = true ↔ InStep machine.phase machine.bindings := by
  rcases machine with ⟨host, phase, bindings⟩
  constructor
  · intro consistent
    cases phase with
    | inactive =>
        cases bindings with
        | none => exact .inactive
        | some bindings => cases consistent
    | active session =>
        cases bindings with
        | none => cases consistent
        | some bindings => exact .active (Bool.and_eq_true_iff.mp consistent).2
  · intro inStep
    cases inStep with
    | inactive => rfl
    | active consistent =>
        exact Bool.and_eq_true_iff.mpr ⟨Session.isWellFormed_eq_true _, consistent⟩

theorem dispatch_lockStep {phase next : Phase} {bindings : Option Bindings} {command : Command}
    {host : Logged τ} (inStep : InStep phase bindings) (leads : command.Leads phase next) :
    Ends (dispatch phase bindings command) host
      (fun answer _ => answer.1.kind = command.outcomeKind phase ∧ InStep next answer.2)
      (fun failure _ => Faulty failure) := by
  cases leads with
  | init options =>
      simp only [dispatch, openSession, ends_bind, bind_pure_comp, ends_map, ends_note]
      exact ends_call_faulty fun screen _ => ends_call_faulty fun _ _ => ends_call_faulty fun _ _ =>
        ends_call_faulty fun _ _ => ends_call_faulty fun keys _ =>
          ⟨rfl, .active (Bindings.fresh_consistent screen keys options)⟩
  | deinit session =>
      simp only [dispatch, closeSession, ends_bind, bind_pure_comp, ends_map, ends_note]
      exact ends_call_faulty fun _ _ => ⟨rfl, .inactive⟩
  | act met updated =>
      cases inStep with
      | active consistent =>
          simp only [dispatch, bind_pure_comp, ends_map]
          exact (perform_lockStep consistent met updated).mono
            (fun _ _ kept => ⟨kept.1, .active kept.2⟩) (fun _ _ => id)

theorem execute_cases {machine : Machine τ} (inStep : InStep machine.phase machine.bindings)
    (command : Command) :
    (∃ refusal, command.apply machine.phase = .error refusal ∧
      machine.execute command = (.error (.refusal refusal), machine)) ∨
    (∃ next outcome host bindings, command.apply machine.phase = .ok next ∧
      outcome.kind = command.outcomeKind machine.phase ∧ InStep next bindings ∧
      machine.execute command = (.ok outcome, ⟨host, next, bindings⟩)) ∨
    (∃ next fault host, command.apply machine.phase = .ok next ∧
      machine.execute command = (.error (.fault fault), { machine with host })) := by
  refine execute_rule machine command (fun refusal refused => ?_) (fun next log leads => ?_)
  · exact .inl ⟨refusal, refused, rfl⟩
  · have accepted := (Command.apply_eq_ok_iff command machine.phase next).mpr leads
    refine (dispatch_lockStep inStep leads).mono (fun answer host kept => ?_)
      (fun failure host faulty => ?_)
    · exact .inr (.inl ⟨next, _, host, _, accepted, kept.1, kept.2, rfl⟩)
    · rcases faulty with ⟨fault, rfl⟩
      exact .inr (.inr ⟨next, fault, host, accepted, rfl⟩)

theorem accepted_of_executed {machine : Machine τ} (inStep : InStep machine.phase machine.bindings)
    {command : Command} {outcome : Outcome} {after : Machine τ}
    (done : machine.execute command = (.ok outcome, after)) :
    command.apply machine.phase = .ok after.phase ∧
      outcome.kind = command.outcomeKind machine.phase := by
  rcases execute_cases inStep command with
    ⟨refusal, _, equal⟩ | ⟨next, given, host, bindings, accepted, kind, _, equal⟩ |
      ⟨next, fault, host, _, equal⟩
  · rw [done] at equal
    cases equal
  · rw [done] at equal
    cases equal
    exact ⟨accepted, kind⟩
  · rw [done] at equal
    cases equal

theorem readBound_faulty {bindings : Bindings} {shape : ReadShape} {host : Logged τ} :
    Ends (readBound bindings shape) host (fun _ _ => True) (fun failure _ => Faulty failure) := by
  simp only [readBound, ends_bind]
  refine ends_call_faulty fun delivered _ => ?_
  cases shape.decode delivered bindings.keys with
  | some value => trivial
  | none => exact ⟨.noInput, rfl⟩

/-! ## Every machine there can be -/

def Undone {α : Type} (machine : Machine τ) : Except Failure α × Machine τ → Prop
  | (.ok _, _) => True
  | (.error (.fault _), after) => after.phase = machine.phase ∧ after.bindings = machine.bindings
  | (.error (.refusal _), after) => after = machine

theorem execute_inStep {machine : Machine τ} (inStep : InStep machine.phase machine.bindings)
    (command : Command) :
    InStep (machine.execute command).2.phase (machine.execute command).2.bindings ∧
      machine.Undone (machine.execute command) := by
  rcases execute_cases inStep command with
    ⟨refusal, _, equal⟩ | ⟨next, outcome, host, bindings, _, _, kept, equal⟩ |
      ⟨next, fault, host, _, equal⟩
  · rw [equal]
    exact ⟨inStep, rfl⟩
  · rw [equal]
    exact ⟨kept, trivial⟩
  · rw [equal]
    exact ⟨inStep, rfl, rfl⟩

theorem read_inStep {machine : Machine τ} (inStep : InStep machine.phase machine.bindings)
    (shape : ReadShape) :
    InStep (machine.read shape).2.phase (machine.read shape).2.bindings ∧
      machine.Undone (machine.read shape) := by
  refine read_rule machine shape (fun refusal => ⟨inStep, rfl⟩) (fun session bindings _ _ => ?_)
  refine readBound_faulty.mono (fun value host _ => ⟨inStep, trivial⟩)
    (fun failure host faulty => ?_)
  rcases faulty with ⟨fault, rfl⟩
  exact ⟨inStep, rfl, rfl⟩

theorem Reachable.inStep {world : τ → τ → Prop} {machine : Machine τ}
    (reached : machine.Reachable world) : InStep machine.phase machine.bindings := by
  induction reached with
  | new terminal => exact .inactive
  | execute reached command induction => exact (execute_inStep induction command).1
  | read reached shape induction => exact (read_inStep induction shape).1
  | disturb reached change induction => exact induction

/-- Phase and bindings agree after every command and every read, whatever the terminal makes of
them, and what does not succeed changes neither. -/
theorem stays_in_step {world : τ → τ → Prop} {machine : Machine τ}
    (reached : machine.Reachable world) :
    machine.isConsistent = true ∧
      (∀ command, (machine.execute command).2.isConsistent = true ∧
        machine.Undone (machine.execute command)) ∧
      (∀ shape, (machine.read shape).2.isConsistent = true ∧
        machine.Undone (machine.read shape)) := by
  have inStep := reached.inStep
  refine ⟨(isConsistent_iff machine).mpr inStep, fun command => ?_, fun shape => ?_⟩
  · have after := execute_inStep inStep command
    exact ⟨(isConsistent_iff _).mpr after.1, after.2⟩
  · have after := read_inStep inStep shape
    exact ⟨(isConsistent_iff _).mpr after.1, after.2⟩

/-- A border that cannot be drawn undoes its window. -/
theorem failed_border_stays_in_step :
    let machine := (execute (.new (Recorder.failAfter default .drawBorder 0)) (.init {})).2
    let attempt := machine.execute
      (.act (.addWindow "w" .origin ⟨3, 3⟩ (some { glyphs := .ascii })))
    machine.Reachable Eq ∧ attempt.1 = .error (.fault (.device .injected)) ∧
      attempt.2.isConsistent = true ∧ machine.Undone attempt := by
  have reached := Reachable.execute
    (Reachable.new (Recorder.failAfter default .drawBorder 0) : Reachable Eq _) (.init {})
  exact ⟨reached, rfl, (stays_in_step reached).2.1 _⟩

end Machine

end TerminalSession
