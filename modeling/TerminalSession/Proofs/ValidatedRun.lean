import TerminalSession.Proofs.LockStep

/-! # Runs of validated programs

A program that was validated is never refused while it runs. It stops early only where the terminal
fails, and then everything before that place has taken effect and nothing after it has. -/

namespace TerminalSession

namespace Machine

variable {τ : Type} [Terminal τ]

/-! Each outcome is of the kind that its command is meant to return in the phase which the commands
before it led to. -/

def Answered (phase : Phase) (commands : List Command) (outcomes : List Outcome) : Prop :=
  outcomes.length = commands.length ∧
    ∀ index command outcome, commands[index]? = some command → outcomes[index]? = some outcome →
      ∃ current, phase.follow (commands.take index) = .ok current ∧
        outcome.kind = command.outcomeKind current

/-- The run stopped because of the command at `index`: those before it succeeded and led to the
phase that is left, and the rest of the machine is as that command left it. -/
structure StoppedAt (machine : Machine τ) (commands : List Command) (index : Nat) (fault : Fault)
    (after : Machine τ) : Prop where
  phase : machine.phase.follow (commands.take index) = .ok after.phase
  failed : ∃ command outcomes before, commands[index]? = some command ∧
    machine.runAll (commands.take index) = (.ok outcomes, before) ∧
    before.execute command = (.error (.fault fault), after)

omit [Terminal τ] in
theorem answered_nil (phase : Phase) : Answered phase [] [] := by
  refine ⟨rfl, ?_⟩
  intro index command outcome found
  simp at found

omit [Terminal τ] in
theorem answered_cons {phase next : Phase} {command : Command} {rest : List Command}
    {outcome : Outcome} {outcomes : List Outcome} (accepted : command.apply phase = .ok next)
    (kind : outcome.kind = command.outcomeKind phase) (answered : Answered next rest outcomes) :
    Answered phase (command :: rest) (outcome :: outcomes) := by
  refine ⟨by simp [answered.1], ?_⟩
  intro index command' outcome' found foundOutcome
  cases index with
  | zero =>
      cases found
      cases foundOutcome
      exact ⟨phase, rfl, kind⟩
  | succ index =>
      rcases answered.2 index command' outcome' found foundOutcome with ⟨current, followed, same⟩
      exact ⟨current, (Phase.follow_cons_eq_ok_iff _ _ _ _).mpr ⟨next, accepted, followed⟩, same⟩

theorem stoppedAt_cons {machine middle after : Machine τ} {command : Command}
    {rest : List Command} {outcome : Outcome} {index : Nat} {fault : Fault}
    (accepted : command.apply machine.phase = .ok middle.phase)
    (done : machine.execute command = (.ok outcome, middle))
    (stopped : middle.StoppedAt rest index fault after) :
    machine.StoppedAt (command :: rest) (index + 1) fault after := by
  rcases stopped.failed with ⟨failing, outcomes, before, found, ran, failed⟩
  refine ⟨?_, failing, outcome :: outcomes, before, found, ?_, failed⟩
  · exact (Phase.follow_cons_eq_ok_iff _ _ _ _).mpr ⟨middle.phase, accepted, stopped.phase⟩
  · simp only [List.take_succ_cons, runAll, done, ran]
    rfl

/-- Commands that are accepted one after the other all succeed, or the terminal stops them. -/
theorem runAll_of_follow {commands : List Command} {machine : Machine τ} {last : Phase}
    (inStep : InStep machine.phase machine.bindings)
    (followed : machine.phase.follow commands = .ok last) :
    (∃ outcomes after, machine.runAll commands = (.ok outcomes, after) ∧ after.phase = last ∧
      Answered machine.phase commands outcomes) ∨
    (∃ fault after index, machine.runAll commands = (.error (.fault fault), after) ∧
      machine.StoppedAt commands index fault after) := by
  induction commands generalizing machine with
  | nil =>
      cases followed
      exact .inl ⟨[], machine, rfl, rfl, answered_nil _⟩
  | cons command rest induction =>
      rcases (Phase.follow_cons_eq_ok_iff _ _ _ _).mp followed with ⟨next, accepted, restFollowed⟩
      rcases execute_cases inStep command with
        ⟨refusal, refused, _⟩ | ⟨next', outcome, host, bindings, accepted', kind, kept, done⟩ |
          ⟨next', fault, host, _, failed⟩
      · rw [accepted] at refused
        cases refused
      · rw [accepted] at accepted'
        cases accepted'
        have middleInStep : InStep (Machine.mk host next bindings).phase bindings := kept
        rcases induction middleInStep restFollowed with
          ⟨outcomes, after, ran, ended, answered⟩ | ⟨fault, after, index, ran, stopped⟩
        · refine .inl ⟨outcome :: outcomes, after, ?_, ended, answered_cons accepted kind answered⟩
          simp only [runAll, done, ran]
          rfl
        · refine .inr ⟨fault, after, index + 1, ?_, stoppedAt_cons accepted done stopped⟩
          simp only [runAll, done, ran]
          rfl
      · have stopped : machine.StoppedAt (command :: rest) 0 fault { machine with host } :=
          ⟨rfl, command, [], machine, rfl, rfl, failed⟩
        refine .inr ⟨fault, { machine with host }, 0, ?_, stopped⟩
        simp only [runAll, failed]

/-- A validated program is never refused: it runs to its end as validation said, or the terminal
fails at one of its commands. -/
theorem run_of_validate {world : τ → τ → Prop} {commands : List Command} {program : Program}
    (validated : Program.validate commands = .ok program) {machine : Machine τ}
    (reached : machine.Reachable world) (inactive : machine.phase = .inactive) :
    (∃ outcomes after, machine.run program = (.ok outcomes, after) ∧
      Program.validateFrom .inactive commands = .ok (program, after.phase) ∧
      Answered .inactive commands outcomes) ∨
    (∃ fault after index, machine.run program = (.error (.fault fault), after) ∧
      machine.StoppedAt commands index fault after) := by
  rcases (Program.validate_eq_ok_iff commands program).mp validated with ⟨rfl, last, followed⟩
  rw [← inactive] at followed
  rcases runAll_of_follow reached.inStep followed with
    ⟨outcomes, after, ran, ended, answered⟩ | ⟨fault, after, index, ran, stopped⟩
  · refine .inl ⟨outcomes, after, ran, ?_, inactive ▸ answered⟩
    rw [Program.validateFrom_eq_ok_iff, ended, ← inactive]
    exact ⟨rfl, followed⟩
  · exact .inr ⟨fault, after, index, ran, stopped⟩

/-- A read that nothing was typed for stops a program after its border was drawn in a color. -/
theorem run_of_validate_unanswered :
    let commands : List Command := [.init {}, .act (.addColor "c" .red .black),
      .act (.addWindow "w" .origin ⟨3, 3⟩ (some { glyphs := .ascii, color := some ⟨"c"⟩ })),
      .act .getInput, .deinit]
    let machine : Machine Recorder := .new default
    Program.validate commands = .ok ⟨commands⟩ ∧ machine.Reachable Eq ∧
      machine.phase = .inactive ∧ ∃ after index,
        machine.run ⟨commands⟩ = (.error (.fault .noInput), after) ∧
          machine.StoppedAt commands index .noInput after := by
  intro commands machine
  have validated : Program.validate commands = .ok ⟨commands⟩ := rfl
  have reached : machine.Reachable Eq := .new default
  have failed : (machine.run ⟨commands⟩).1 = .error (.fault .noInput) := rfl
  refine ⟨validated, reached, rfl, ?_⟩
  rcases run_of_validate validated reached rfl with
    ⟨outcomes, after, ran, _⟩ | ⟨fault, after, index, ran, stopped⟩
  · rw [ran] at failed
    cases failed
  · rw [ran] at failed
    cases failed
    exact ⟨after, index, ran, stopped⟩

end Machine

end TerminalSession
