import TerminalSession.Proofs.Simulation

/-! # Work does not depend on the log

The log of a run is only written. So two pieces of work that make the same calls come to the same
end, whatever was logged before them and whatever one of them logs itself. A machine does with a
command what another does that differs from it only in its log, and a read whose shape is known
beforehand comes to the same as the command that insists on this shape. -/

namespace TerminalSession

namespace Exchange

variable {τ : Type} {α β γ δ : Type}

inductive Abreast (agree : α → β → Prop) :
    EStateM.Result Failure (Logged τ) α → EStateM.Result Failure (Logged τ) β → Prop
  | ok {value : α} {other : β} {stop last : Logged τ} (agreed : agree value other)
      (same : stop.terminal = last.terminal) : Abreast agree (.ok value stop) (.ok other last)
  | error (failure : Failure) {stop last : Logged τ} (same : stop.terminal = last.terminal) :
      Abreast agree (.error failure stop) (.error failure last)

/-- From the same terminal both pieces of work come to the same end. -/
def Parallel (agree : α → β → Prop) (work : Exchange τ α) (other : Exchange τ β) : Prop :=
  ∀ start first : Logged τ, start.terminal = first.terminal →
    Abreast agree (work start) (other first)

def Blind (work : Exchange τ α) : Prop := Parallel Eq work work

variable {agree : α → β → Prop} {result : γ → δ → Prop}

namespace Parallel

theorem pure {value : α} {other : β} (agreed : agree value other) :
    Parallel agree (Pure.pure value : Exchange τ α) (Pure.pure other) :=
  fun _ _ same => .ok agreed same

theorem throw (failure : Failure) :
    Parallel agree (MonadExcept.throw failure : Exchange τ α) (MonadExcept.throw failure) :=
  fun _ _ same => .error failure same

theorem bind {work : Exchange τ α} {other : Exchange τ β} {next : α → Exchange τ γ}
    {following : β → Exchange τ δ} (first : Parallel agree work other)
    (second : ∀ value known, agree value known → Parallel result (next value) (following known)) :
    Parallel result (work >>= next) (other >>= following) := by
  intro start origin same
  have ended := first start origin same
  simp only [Bind.bind, EStateM.bind]
  generalize work start = left at ended ⊢
  generalize other origin = right at ended ⊢
  cases ended with
  | ok agreed same => exact second _ _ agreed _ _ same
  | error failure same => exact .error failure same

end Parallel

def SameTerminal (start first : Logged τ) : Prop := start.terminal = first.terminal

theorem mimics_sameTerminal [Terminal τ] : Mimics (@SameTerminal τ) where
  call := by
    rintro called ⟨terminal, log⟩ ⟨_, other⟩ rfl
    rcases reply : Terminal.perform called terminal with ⟨answer, after, notes⟩
    simp only [Exchange.call, reply]
    cases answer with
    | ok answer => exact .ok answer rfl
    | error fault => exact .error _ rfl
  note _ _ _ := fun _ _ same => .ok () same

theorem Echoes.blind {work : Exchange τ α} (echoes : Echoes SameTerminal work work) :
    Blind work := by
  intro start first same
  have ended := echoes start first same
  generalize work start = left at ended ⊢
  generalize work first = right at ended ⊢
  cases ended with
  | ok value same => exact .ok rfl same
  | error failure same => exact .error failure same

end Exchange

namespace Machine

open Exchange

variable {τ : Type} [Terminal τ] {bindings : Bindings} {session : Session}

theorem dispatch_blind (phase : Phase) (bindings : Option Bindings) (command : Command) :
    Blind (dispatch phase bindings command : Exchange τ (Outcome × Option Bindings)) :=
  (dispatch_echoes mimics_sameTerminal phase bindings command).blind

/-! ## Machines that differ in their log only -/

structure Alike (machine other : Machine τ) : Prop where
  terminal : machine.terminal = other.terminal
  phase : machine.phase = other.phase
  bindings : machine.bindings = other.bindings

variable {machine other : Machine τ}

theorem execute_alike (alike : Alike machine other) (command : Command) :
    (machine.execute command).1 = (other.execute command).1 ∧
      Alike (machine.execute command).2 (other.execute command).2 := by
  have ended := execute_alongside mimics_sameTerminal
    ⟨alike.terminal, alike.phase, alike.bindings⟩ command
  exact ⟨ended.1, ended.2.host, ended.2.phase, ended.2.bindings⟩

theorem readBound_parallel (session : Session) {shape : ReadShape}
    (fits : bindings.current.window.shape = shape) :
    Parallel (fun value answer => answer = (Outcome.input (shape.wrap value), some bindings))
      (readBound bindings shape : Exchange τ shape.Value)
      (dispatch (.active session) (some bindings) (.act (.readAs shape))) := by
  simp only [dispatch, perform, readCurrent, bind_assoc]
  apply Parallel.bind (mimics_sameTerminal.call _).blind
  rintro delivered _ rfl
  rw [fits, ReadShape.resolve]
  cases shape.decode delivered bindings.keys with
  | none => exact .throw _
  | some value => exact .pure rfl

theorem shape_of_check {session : Session} {shape : ReadShape}
    (accepted : (Command.act (.readAs shape)).check (.active session) = .ok ()) :
    session.shape = shape := by
  have met := (Command.check_act_active _ _).mp accepted (.inputMode shape) List.mem_cons_self
  rw [Requirement.checkActive] at met
  split at met
  · assumption
  · cases met

theorem read_alike (inStep : InStep machine.phase machine.bindings) (alike : Alike machine other)
    (shape : ReadShape) :
    (machine.read shape).1.map (fun value => Outcome.input (shape.wrap value)) =
        (other.execute (.act (.readAs shape))).1 ∧
      Alike (machine.read shape).2 (other.execute (.act (.readAs shape))).2 := by
  cases checked : (Command.act (.readAs shape)).check machine.phase with
  | error refusal =>
      have refused : (Command.act (.readAs shape)).apply other.phase = .error refusal := by
        rw [Command.apply, ← alike.phase, checked]
        rfl
      rw [read_refused checked, execute_refused refused]
      exact ⟨rfl, alike⟩
  | ok passed =>
      generalize phase : machine.phase = current at inStep checked
      generalize bound : machine.bindings = bindings at inStep
      cases inStep with
      | inactive => cases checked
      | @active session bindings consistent =>
          have otherPhase : other.phase = .active session := alike.phase.symm.trans phase
          have accepted : (Command.act (.readAs shape)).apply other.phase =
              .ok (.active session) := by
            rw [otherPhase, Command.apply, checked]
            rfl
          have fits : bindings.current.window.shape = shape := by
            rw [Bindings.current_window_eq consistent]
            exact shape_of_check checked
          rw [read_accepted bound (phase ▸ checked), execute_accepted accepted, otherPhase,
            ← alike.bindings, bound]
          have ended := readBound_parallel session fits machine.host
            (other.announced (.act (.readAs shape))) alike.terminal
          generalize readBound bindings shape machine.host = left at ended ⊢
          generalize dispatch (.active session) (some bindings) (.act (.readAs shape))
            (other.announced (.act (.readAs shape))) = right at ended ⊢
          cases ended with
          | ok agreed same =>
              cases agreed
              exact ⟨rfl, same, phase, rfl⟩
          | error failure same => exact ⟨rfl, same, phase, rfl⟩

end Machine

end TerminalSession
