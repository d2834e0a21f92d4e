import TerminalSession.Program

/-! # What accepted commands lead to

A command is accepted if all its requirements hold. `Command.Leads` lists the ways in which an
accepted command takes one phase to the next, and `Phase.follow` is the phase after several
commands. -/

namespace TerminalSession

namespace Requirement

theorem checkAll_eq_ok_iff (requirements : List Requirement) (phase : Phase) :
    checkAll requirements phase = .ok () ↔
      ∀ requirement ∈ requirements, requirement.check phase = .ok () := by
  induction requirements with
  | nil => simp [checkAll, pure, Except.pure]
  | cons requirement rest induction =>
      unfold checkAll at induction ⊢
      rw [List.forM_eq_forM] at induction ⊢
      rw [List.forM_cons, List.forall_mem_cons, ← induction]
      cases requirement.check phase with
      | ok passed => simp [bind, Except.bind]
      | error refusal => simp [bind, Except.bind]

@[simp] theorem check_active (requirement : Requirement) (session : Session) :
    requirement.check (.active session) = requirement.checkActive session := by
  cases requirement <;> rfl

end Requirement

namespace Session

variable {session next : Session} {name : String}

theorem addWindow_eq_ok (added : session.addWindow name = .ok next) :
    next = { session with windows := session.windows.push { name } } := by
  rw [addWindow] at added
  split at added
  · cases added
  · exact (Except.ok.inj added).symm

theorem addColor_eq_ok (added : session.addColor name = .ok next) :
    next = { session with colors := name :: session.colors } := by
  rw [addColor] at added
  split at added
  · cases added
  · exact (Except.ok.inj added).symm

theorem setWindow_eq_ok (moved : session.setWindow name = .ok next) :
    ∃ windows, session.windows.select? (·.name = name) = some windows ∧
      next = { session with windows } := by
  rw [setWindow] at moved
  split at moved
  · rename_i windows selected
    exact ⟨windows, selected, (Except.ok.inj moved).symm⟩
  · cases moved

end Session

def Action.Met (action : Action) (session : Session) : Prop :=
  ∀ requirement ∈ action.requirements, requirement.checkActive session = .ok ()

namespace Command

inductive Leads : Command → Phase → Phase → Prop
  | init (options : SessionOptions) : Leads (.init options) .inactive (.active (.fresh options))
  | deinit (session : Session) : Leads .deinit (.active session) .inactive
  | act {action : Action} {session next : Session} (met : action.Met session)
      (updated : action.update session = .ok next) :
      Leads (.act action) (.active session) (.active next)

theorem check_act_active (action : Action) (session : Session) :
    (act action).check (.active session) = .ok () ↔ action.Met session := by
  rw [check, Requirement.checkAll_eq_ok_iff, requirements, List.forall_mem_cons]
  simp [Action.Met, Requirement.checkActive]

theorem apply_eq_ok_iff (command : Command) (phase next : Phase) :
    command.apply phase = .ok next ↔ command.Leads phase next := by
  constructor
  · intro accepted
    cases command with
    | init options =>
        cases phase with
        | inactive =>
            cases accepted
            exact .init options
        | active session => cases accepted
    | deinit =>
        cases phase with
        | inactive => cases accepted
        | active session =>
            cases accepted
            exact .deinit session
    | act action =>
        cases phase with
        | inactive => cases accepted
        | active session =>
            cases checked : (act action).check (.active session) with
            | error refusal => simp [apply, checked, bind, Except.bind] at accepted
            | ok passed =>
                simp only [apply, checked, bind, Except.bind, Phase.mapActive] at accepted
                cases updated : action.update session with
                | error refusal => simp [updated, Except.map] at accepted
                | ok changed =>
                    rw [updated] at accepted
                    cases accepted
                    exact .act ((check_act_active action session).mp checked) updated
  · intro leads
    cases leads with
    | init options => rfl
    | deinit session => rfl
    | @act action session next met updated =>
        have checked := (check_act_active action session).mpr met
        simp [apply, checked, updated, bind, Except.bind, Phase.mapActive, Except.map]

end Command

def Phase.follow (phase : Phase) (commands : List Command) : Except Refusal Phase :=
  commands.foldlM (fun phase command => command.apply phase) phase

namespace Phase

@[simp] theorem follow_nil (phase : Phase) : phase.follow [] = .ok phase := rfl

theorem follow_cons (phase : Phase) (command : Command) (rest : List Command) :
    phase.follow (command :: rest) = command.apply phase >>= fun next => next.follow rest := rfl

theorem follow_cons_eq_ok_iff (phase last : Phase) (command : Command) (rest : List Command) :
    phase.follow (command :: rest) = .ok last ↔
      ∃ next, command.apply phase = .ok next ∧ next.follow rest = .ok last := by
  rw [follow_cons]
  cases command.apply phase with
  | ok next => simp [bind, Except.bind]
  | error refusal => simp [bind, Except.bind]

theorem follow_append_eq_ok_iff (phase last : Phase) (first second : List Command) :
    phase.follow (first ++ second) = .ok last ↔
      ∃ middle, phase.follow first = .ok middle ∧ middle.follow second = .ok last := by
  induction first generalizing phase with
  | nil => simp
  | cons command rest induction =>
      rw [List.cons_append, follow_cons_eq_ok_iff]
      simp only [follow_cons_eq_ok_iff, induction]
      grind

end Phase

namespace Program

theorem advance_eq_ok_iff (index : Nat) (commands : List Command) (phase last : Phase) :
    advance index commands phase = .ok last ↔ phase.follow commands = .ok last := by
  induction commands generalizing index phase with
  | nil => simp [advance]
  | cons command rest induction =>
      rw [Phase.follow_cons_eq_ok_iff, advance]
      cases command.apply phase with
      | ok next => simp [induction]
      | error refusal => simp

theorem validateFrom_eq_ok_iff (phase last : Phase) (commands : List Command)
    (program : Program) :
    validateFrom phase commands = .ok (program, last) ↔
      program = ⟨commands⟩ ∧ phase.follow commands = .ok last := by
  rw [← advance_eq_ok_iff 0, validateFrom]
  cases advance 0 commands phase with
  | ok reached => simp [Except.map, eq_comm]
  | error refusal => simp [Except.map]

theorem validate_eq_ok_iff (commands : List Command) (program : Program) :
    validate commands = .ok program ↔
      program = ⟨commands⟩ ∧ ∃ last, Phase.follow .inactive commands = .ok last := by
  rw [validate]
  constructor
  · intro validated
    cases checked : validateFrom .inactive commands with
    | error refusal => simp [checked, Except.map] at validated
    | ok result =>
        rw [checked] at validated
        cases validated
        have parts := (validateFrom_eq_ok_iff .inactive result.2 commands result.1).mp checked
        exact ⟨parts.1, result.2, parts.2⟩
  · rintro ⟨equal, last, followed⟩
    rw [(validateFrom_eq_ok_iff .inactive last commands program).mpr ⟨equal, followed⟩]
    rfl

end Program

end TerminalSession
