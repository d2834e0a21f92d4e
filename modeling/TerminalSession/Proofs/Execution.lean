import TerminalSession.Machine
import TerminalSession.Proofs.Ends
import TerminalSession.Proofs.Transition

/-! # The steps of a machine

A machine takes two kinds of steps, commands and reads. Of each there is one rule: what holds if the
step is refused, and holds however the terminal's part in it ends, holds of the step. -/

namespace TerminalSession.Machine

open Exchange

variable {τ : Type} [Terminal τ]

/-- What is refused leaves the machine alone. What is accepted comes out as the terminal's part in
it does, and only if that succeeds do phase and bindings change. -/
@[elab_as_elim]
theorem execute_rule (machine : Machine τ) (command : Command)
    {motive : Except Failure Outcome × Machine τ → Prop}
    (refused : ∀ refusal, command.apply machine.phase = .error refusal →
      motive (.error (.refusal refusal), machine))
    (accepted : ∀ next log, command.Leads machine.phase next →
      Ends (dispatch machine.phase machine.bindings command) { machine.host with log }
        (fun answer host => motive (.ok answer.1, ⟨host, next, answer.2⟩))
        (fun failure host => motive (.error failure, { machine with host }))) :
    motive (machine.execute command) := by
  cases applied : command.apply machine.phase with
  | error refusal =>
      simp only [execute, applied]
      exact refused refusal applied
  | ok next =>
      have leads := (Command.apply_eq_ok_iff command machine.phase next).mp applied
      have work : Ends (do
          note .debug .machine ("Executing " ++ command.text)
          dispatch machine.phase machine.bindings command) machine.host
          (fun answer host => motive (.ok answer.1, ⟨host, next, answer.2⟩))
          (fun failure host => motive (.error failure, { machine with host })) := by
        simp only [ends_bind, ends_note]
        exact accepted next _ leads
      unfold Ends at work
      simp only [execute, applied]
      split at work
      · rename_i answer host result
        rw [result]
        exact work
      · rename_i failure host result
        rw [result]
        exact work

def readBound (bindings : Bindings) (shape : ReadShape) : Exchange τ shape.Value := do
  let delivered ← call (.readInput bindings.handle)
  match shape.decode delivered bindings.keys with
  | some value => return value
  | none => throw (.fault .noInput)

@[elab_as_elim]
theorem read_rule (machine : Machine τ) (shape : ReadShape)
    {motive : Except Failure shape.Value × Machine τ → Prop}
    (refused : ∀ refusal, motive (.error (.refusal refusal), machine))
    (accepted : ∀ session bindings, machine.phase = .active session →
      machine.bindings = some bindings →
      Ends (readBound bindings shape) machine.host
        (fun value host => motive (.ok value, { machine with host }))
        (fun failure host => motive (.error failure, { machine with host }))) :
    motive (machine.read shape) := by
  rcases machine with ⟨host, phase, bindings⟩
  cases checked : (Command.act (.readAs shape)).check phase with
  | error refusal =>
      simp only [read, checked]
      exact refused refusal
  | ok passed =>
      cases phase with
      | inactive => cases checked
      | active session =>
          cases bindings with
          | none =>
              simp only [read, checked]
              exact refused .notActive
          | some bindings =>
              have work := accepted session bindings rfl rfl
              unfold Ends at work
              generalize done : read ⟨host, .active session, some bindings⟩ shape = result
              simp only [read, checked] at done
              split at done
              · rename_i value host' ran
                have same : readBound bindings shape host = .ok value host' := ran
                rw [same] at work
                exact done ▸ work
              · rename_i failure host' ran
                have same : readBound bindings shape host = .error failure host' := ran
                rw [same] at work
                exact done ▸ work

/-! Commands and reads follow one another in any order, starting from a new machine. Between two of
them the terminal may change as far as `world` allows. -/

inductive Reachable (world : τ → τ → Prop) : Machine τ → Prop
  | new (terminal : τ) : Reachable world (.new terminal)
  | execute {machine : Machine τ} (reached : Reachable world machine) (command : Command) :
      Reachable world (machine.execute command).2
  | read {machine : Machine τ} (reached : Reachable world machine) (shape : ReadShape) :
      Reachable world (machine.read shape).2
  | disturb {machine : Machine τ} (reached : Reachable world machine) {terminal : τ}
      (change : world machine.terminal terminal) :
      Reachable world { machine with host := { machine.host with terminal } }

end TerminalSession.Machine
