import TerminalSession.Proofs.Requirements

/-! # Validation reports the first refusal

Validation takes commands one after the other, so it can be stopped anywhere and gone on with from
the phase that was reached. If it fails, its report names the one command that was refused, and
gives the reason for which it was refused in the phase that the commands before it led to. -/

namespace TerminalSession

namespace Refusal

def isReport : Refusal → Bool
  | rejected _ _ _ => true
  | _ => false

end Refusal

/-! ## Commands report nothing

What a command is refused for is never itself the report of a validation. -/

namespace Requirement

variable {requirement : Requirement} {refusal : Refusal}

theorem isReport_of_checkActive {session : Session}
    (failed : requirement.checkActive session = .error refusal) : refusal.isReport = false := by
  cases requirement with
  | sessionActive => cases failed
  | sessionInactive =>
      cases failed
      rfl
  | windowExists | currentWindow | inputMode =>
      simp only [checkActive] at failed
      split at failed
      · cases failed
      · cases failed
        rfl
  | colorExists name =>
      simp only [checkActive, Session.color] at failed
      split at failed
      · cases failed
      · cases failed
        rfl
  | windowNameFree | colorNameFree =>
      simp only [checkActive] at failed
      split at failed
      · cases failed
        rfl
      · cases failed

theorem isReport_of_check {phase : Phase} (failed : requirement.check phase = .error refusal) :
    refusal.isReport = false := by
  cases phase with
  | active session =>
      rw [check_active] at failed
      exact isReport_of_checkActive failed
  | inactive =>
      cases requirement with
      | sessionInactive => cases failed
      | _ =>
          cases failed
          rfl

end Requirement

theorem Command.isReport_of_apply {command : Command} {phase : Phase} {refusal : Refusal}
    (refused : command.apply phase = .error refusal) : refusal.isReport = false := by
  rcases (apply_eq_error_iff command phase refusal).mp refused with
    ⟨_, requirement, _, _, _, failed⟩
  exact Requirement.isReport_of_check failed

namespace Program

/-! ## The command that is refused

The commands before it are accepted one after the other, and it is refused in the phase they lead
to. -/

structure RefusedAt (phase : Phase) (commands : List Command) (index : Nat) (command : Command)
    (cause : Refusal) : Prop where
  found : commands[index]? = some command
  refused : ∃ current, phase.follow (commands.take index) = .ok current ∧
    command.apply current = .error cause

variable {phase middle : Phase} {commands rest : List Command} {command refused : Command}
  {cause refusal : Refusal} {index : Nat}

theorem not_refusedAt_nil : ¬RefusedAt phase [] index refused cause := by
  intro stopped
  cases stopped.found

theorem refusedAt_zero_iff :
    RefusedAt phase (command :: rest) 0 refused cause ↔
      refused = command ∧ command.apply phase = .error cause := by
  constructor
  · rintro ⟨found, current, reached, failed⟩
    cases found
    cases reached
    exact ⟨rfl, failed⟩
  · rintro ⟨rfl, failed⟩
    exact ⟨rfl, phase, rfl, failed⟩

theorem refusedAt_succ_iff :
    RefusedAt phase (command :: rest) (index + 1) refused cause ↔
      ∃ next, command.apply phase = .ok next ∧ RefusedAt next rest index refused cause := by
  constructor
  · rintro ⟨found, current, reached, failed⟩
    rw [List.take_succ_cons, Phase.follow_cons_eq_ok_iff] at reached
    rcases reached with ⟨next, accepted, reached⟩
    exact ⟨next, accepted, found, current, reached, failed⟩
  · rintro ⟨next, accepted, found, current, reached, failed⟩
    refine ⟨found, current, ?_, failed⟩
    rw [List.take_succ_cons, Phase.follow_cons_eq_ok_iff]
    exact ⟨next, accepted, reached⟩

/-- The report of the command that is refused, where the first command counts as number `start`. -/
theorem advance_eq_error_iff (start : Nat) :
    advance start commands phase = .error refusal ↔
      ∃ index command cause, RefusedAt phase commands index command cause ∧
        refusal = .rejected (start + index) command.text cause := by
  induction commands generalizing start phase with
  | nil =>
      constructor
      · intro failed
        cases failed
      · rintro ⟨_, _, _, stopped, _⟩
        exact absurd stopped not_refusedAt_nil
  | cons command rest induction =>
      rw [advance]
      cases applied : command.apply phase with
      | error cause =>
          constructor
          · intro failed
            cases failed
            exact ⟨0, command, cause, refusedAt_zero_iff.mpr ⟨rfl, applied⟩, rfl⟩
          · rintro ⟨index, refused, reason, stopped, rfl⟩
            cases index with
            | zero =>
                rcases refusedAt_zero_iff.mp stopped with ⟨rfl, failed⟩
                cases applied.symm.trans failed
                rfl
            | succ index =>
                rcases refusedAt_succ_iff.mp stopped with ⟨next, accepted, _⟩
                cases applied.symm.trans accepted
      | ok next =>
          refine (induction (start + 1)).trans ?_
          constructor
          · rintro ⟨index, refused, cause, stopped, rfl⟩
            refine ⟨index + 1, refused, cause, refusedAt_succ_iff.mpr ⟨next, applied, stopped⟩, ?_⟩
            rw [Nat.add_assoc, Nat.add_comm 1]
          · rintro ⟨index, refused, cause, stopped, rfl⟩
            cases index with
            | zero => cases applied.symm.trans (refusedAt_zero_iff.mp stopped).2
            | succ index =>
                rcases refusedAt_succ_iff.mp stopped with ⟨_, accepted, later⟩
                cases applied.symm.trans accepted
                refine ⟨index, refused, cause, later, ?_⟩
                rw [Nat.add_assoc, Nat.add_comm 1]

theorem validateFrom_eq_error_iff :
    validateFrom phase commands = .error refusal ↔
      ∃ index command cause, RefusedAt phase commands index command cause ∧
        refusal = .rejected index command.text cause := by
  have reports : advance 0 commands phase = .error refusal ↔ _ := advance_eq_error_iff 0
  simp only [Nat.zero_add] at reports
  rw [← reports, validateFrom]
  cases advance 0 commands phase with
  | ok last => simp [Except.map]
  | error reported => simp [Except.map]

/-! ## Commands in two parts

Behind commands that are accepted only the later ones can be refused. -/

variable {first : List Command}

theorem RefusedAt.append (stopped : RefusedAt phase first index refused cause)
    (second : List Command) : RefusedAt phase (first ++ second) index refused cause := by
  have inside : index < first.length := (List.getElem?_eq_some_iff.mp stopped.found).1
  constructor
  · rw [List.getElem?_append_left inside]
    exact stopped.found
  · rw [List.take_append_of_le_length (Nat.le_of_lt inside)]
    exact stopped.refused

theorem refusedAt_append_iff (accepted : phase.follow first = .ok middle)
    (second : List Command) :
    RefusedAt phase (first ++ second) index refused cause ↔
      ∃ later, index = first.length + later ∧ RefusedAt middle second later refused cause := by
  induction first generalizing phase index with
  | nil =>
      cases accepted
      simp
  | cons command rest induction =>
      rcases (Phase.follow_cons_eq_ok_iff _ _ _ _).mp accepted with ⟨next, applied, followed⟩
      rw [List.cons_append]
      cases index with
      | zero =>
          constructor
          · intro stopped
            cases applied.symm.trans (refusedAt_zero_iff.mp stopped).2
          · rintro ⟨later, same, _⟩
            rw [List.length_cons] at same
            omega
      | succ index =>
          rw [refusedAt_succ_iff, List.length_cons]
          constructor
          · rintro ⟨_, reached, stopped⟩
            cases applied.symm.trans reached
            rcases (induction followed).mp stopped with ⟨later, same, stopped⟩
            exact ⟨later, by omega, stopped⟩
          · rintro ⟨later, same, stopped⟩
            exact ⟨next, applied, (induction followed).mpr ⟨later, by omega, stopped⟩⟩

/-- Validation of commands in two parts is validation of the first part, gone on with from the phase
it led to. A command is reported if those before it are accepted and it is not, with its place among
all commands and with the reason that it was refused for. -/
theorem validation_reports_first_refusal (phase : Phase) (first second : List Command) :
    (∀ program last, validateFrom phase (first ++ second) = .ok (program, last) ↔
      program = ⟨first ++ second⟩ ∧ ∃ middle,
        validateFrom phase first = .ok (⟨first⟩, middle) ∧
          validateFrom middle second = .ok (⟨second⟩, last)) ∧
    (∀ index text cause, validateFrom phase first = .error (.rejected index text cause) ↔
      ∃ command, RefusedAt phase first index command cause ∧ text = command.text) ∧
    (∀ refusal, validateFrom phase first = .error refusal → refusal.isReport = true) ∧
    (∀ index command cause, RefusedAt phase first index command cause →
      cause.isReport = false) ∧
    (∀ refusal, validateFrom phase first = .error refusal →
      validateFrom phase (first ++ second) = .error refusal) ∧
    ∀ middle, validateFrom phase first = .ok (⟨first⟩, middle) →
      ∀ refusal, validateFrom phase (first ++ second) = .error refusal ↔
        ∃ index text cause, validateFrom middle second = .error (.rejected index text cause) ∧
          refusal = .rejected (first.length + index) text cause := by
  refine ⟨?_, ?_, ?_, ?_, ?_, ?_⟩
  · intro program last
    simp only [validateFrom_eq_ok_iff, Phase.follow_append_eq_ok_iff, true_and]
  · intro index text cause
    rw [validateFrom_eq_error_iff]
    constructor
    · rintro ⟨_, command, _, stopped, same⟩
      cases same
      exact ⟨command, stopped, rfl⟩
    · rintro ⟨command, stopped, rfl⟩
      exact ⟨index, command, cause, stopped, rfl⟩
  · intro refusal failed
    rcases validateFrom_eq_error_iff.mp failed with ⟨_, _, _, _, rfl⟩
    rfl
  · rintro index command cause ⟨_, current, _, refused⟩
    exact Command.isReport_of_apply refused
  · intro refusal failed
    rcases validateFrom_eq_error_iff.mp failed with ⟨index, command, cause, stopped, rfl⟩
    exact validateFrom_eq_error_iff.mpr ⟨index, command, cause, stopped.append second, rfl⟩
  · intro middle accepted refusal
    have followed := ((validateFrom_eq_ok_iff phase middle first ⟨first⟩).mp accepted).2
    simp only [validateFrom_eq_error_iff, refusedAt_append_iff followed]
    constructor
    · rintro ⟨_, command, cause, ⟨later, rfl, stopped⟩, rfl⟩
      exact ⟨later, command.text, cause, ⟨later, command, cause, stopped, rfl⟩, rfl⟩
    · rintro ⟨_, _, _, ⟨index, command, cause, stopped, same⟩, rfl⟩
      cases same
      exact ⟨_, command, _, ⟨_, rfl, stopped⟩, rfl⟩

/-- Two commands cannot be accepted, and the first of them is the fourth of all. -/
theorem fourth_command_is_reported :
    let first : List Command := [.init {}, .act (.addWindow "w" .origin ⟨1, 1⟩ none)]
    let second : List Command :=
      [.act .refresh, .act (.setWindow "v"), .act (.changeAttribute .set (.color ⟨"c"⟩))]
    ∃ middle, validateFrom .inactive first = .ok (⟨first⟩, middle) ∧
      validateFrom middle second = .error (.rejected 1 "set_window(v)" (.unknownWindow "v")) ∧
        validateFrom .inactive (first ++ second) =
          .error (.rejected 3 "set_window(v)" (.unknownWindow "v")) := by
  intro first second
  have accepted : ∃ middle, validateFrom .inactive first = .ok (⟨first⟩, middle) ∧
      validateFrom middle second = .error (.rejected 1 "set_window(v)" (.unknownWindow "v")) :=
    ⟨_, rfl, rfl⟩
  rcases accepted with ⟨middle, validated, reported⟩
  have composed := validation_reports_first_refusal .inactive first second
  exact ⟨middle, validated, reported,
    (composed.2.2.2.2.2 middle validated _).mpr ⟨1, _, _, reported, rfl⟩⟩

end Program

end TerminalSession
