import TerminalSession.Program
import TerminalSession.Proofs.Transition

/-! # Drafts and validation accept the same programs

A draft checks each command in the way that is enough for that command: fully, on one requirement,
or not at all. Validation checks all commands in the same way, and later. Step by step they come to
the same answer, so what was drafted is valid, and what is valid can be drafted. -/

namespace TerminalSession

namespace Command

theorem check_act (action : Action) (session : Session) :
    (act action).check (.active session) = action.requirements.forM (·.checkActive session) := by
  have unguarded : ∀ requirements : List Requirement,
      Requirement.checkAll requirements (.active session) =
        requirements.forM (·.checkActive session) := by
    intro requirements
    simp only [Requirement.checkAll, Requirement.check_active]
  rw [check, unguarded]
  rfl

theorem check_act_of_none {action : Action} (needless : action.requirements = [])
    (session : Session) : (act action).check (.active session) = .ok () := by
  rw [check_act, needless]
  rfl

theorem check_act_of_single {action : Action} {requirement : Requirement}
    (needed : action.requirements = [requirement]) (session : Session) :
    (act action).check (.active session) = requirement.checkActive session := by
  rw [check_act, needed]
  change (requirement.checkActive session >>= fun _ => Except.ok ()) = _
  cases requirement.checkActive session <;> rfl

end Command

namespace Draft

/-! ## One step

No step checks less than it needs. -/

/-- A step as validation takes it: all requirements are checked, and then the session changes. -/
def fullyChecked (draft : Draft Session) (action : Action) : Except Refusal (Draft Session) := do
  (Command.act action).check (.active draft.state)
  let session ← action.update draft.state
  return ⟨session, .act action :: draft.commands⟩

variable (draft : Draft Session) {action : Action}

theorem check_eq (action : Action) :
    draft.check (.act action) = (Command.act action).check (.active draft.state) := by
  rw [Command.check_act]
  rfl

theorem transition_eq {change : Session → Except Refusal Session}
    (same : action.update draft.state = change draft.state) :
    draft.transition (.act action) change = draft.fullyChecked action := by
  rw [transition, fullyChecked, check_eq, same]

theorem update_eq {change : Session → Session} (needless : action.requirements = [])
    (same : action.update draft.state = .ok (change draft.state)) :
    .ok (draft.update (.act action) change) = draft.fullyChecked action := by
  rw [fullyChecked, Command.check_act_of_none needless, same]
  rfl

theorem push_eq (needless : action.requirements = [])
    (same : action.update draft.state = .ok draft.state) :
    .ok (draft.push (.act action)) = draft.fullyChecked action := by
  rw [fullyChecked, Command.check_act_of_none needless, same]
  rfl

theorem checked_eq (same : action.update draft.state = .ok draft.state) :
    draft.checked (.act action) = draft.fullyChecked action := by
  rw [checked, fullyChecked, check_eq, same]
  rfl

theorem insisting_eq {requirement : Requirement} (needed : action.requirements = [requirement])
    (same : action.update draft.state = .ok draft.state) :
    draft.insisting requirement (.act action) = draft.fullyChecked action := by
  rw [insisting, fullyChecked, Command.check_act_of_single needed, same]
  rfl

theorem add_eq (action : Action) : draft.add action = draft.fullyChecked action := by
  cases action with
  | addWindow name position size border => exact draft.transition_eq rfl
  | setWindow name => exact draft.transition_eq rfl
  | unsetWindow => exact draft.transition_eq rfl
  | addColor name foreground background => exact draft.transition_eq rfl
  | changeAttribute operation look => exact draft.checked_eq rfl
  | setEcho on => exact draft.update_eq rfl rfl
  | setCbreak on => exact draft.update_eq rfl rfl
  | setKeypad on => exact draft.update_eq rfl rfl
  | setNoDelay on => exact draft.update_eq rfl rfl
  | readAs shape => exact draft.insisting_eq rfl rfl
  | require requirement => exact draft.insisting_eq rfl rfl
  | _ => exact draft.push_eq rfl rfl

theorem map_add (action : Action) :
    (draft.add action).map (fun next => Phase.active next.state) =
      (Command.act action).apply (.active draft.state) := by
  rw [add_eq, fullyChecked, Command.apply]
  cases (Command.act action).check (.active draft.state) with
  | error refusal => rfl
  | ok passed =>
      simp only [bind, Except.bind, Phase.mapActive]
      cases action.update draft.state <;> rfl

theorem commands_add {next : Draft Session} (added : draft.add action = .ok next) :
    next.commands = .act action :: draft.commands := by
  rw [add_eq, fullyChecked] at added
  cases checked : (Command.act action).check (.active draft.state) with
  | error refusal =>
      rw [checked] at added
      cases added
  | ok passed =>
      rw [checked] at added
      cases updated : action.update draft.state with
      | error refusal =>
          rw [updated] at added
          cases added
      | ok session =>
          rw [updated] at added
          cases added
          rfl

end Draft

/-! ## Any number of steps

A draft may be one whose session is running or not, and its type decides which commands it can be
given. A command that is refused is skipped. -/

inductive Drafted where
  | idle (draft : Draft Unit)
  | running (draft : Draft Session)
deriving DecidableEq, Repr

namespace Drafted

def phase : Drafted → Phase
  | idle _ => .inactive
  | running draft => .active draft.state

def program : Drafted → Program
  | idle draft => draft.build
  | running draft => draft.build

def offer? : Drafted → Command → Option (Except Refusal Drafted)
  | idle draft, .init options => some (.ok (running (draft.init options)))
  | running draft, .deinit => some (.ok (idle draft.deinit))
  | running draft, .act action => some ((draft.add action).map running)
  | _, _ => none

def attempt (drafted : Drafted) (command : Command) : Drafted :=
  match drafted.offer? command with
  | some (.ok next) => next
  | _ => drafted

def after (commands : List Command) : Drafted := commands.foldl attempt (idle .empty)

variable {drafted next : Drafted} {command : Command}

theorem offer?_cases {answer : Except Refusal Drafted}
    (offered : drafted.offer? command = some answer) :
    (∃ draft options, drafted = idle draft ∧ command = .init options ∧
      answer = .ok (running (draft.init options))) ∨
    (∃ draft, drafted = running draft ∧ command = .deinit ∧ answer = .ok (idle draft.deinit)) ∨
    (∃ draft action, drafted = running draft ∧ command = .act action ∧
      answer = (draft.add action).map running) := by
  cases drafted with
  | idle draft =>
      cases command with
      | init options => exact .inl ⟨draft, options, rfl, rfl, (Option.some.inj offered).symm⟩
      | deinit | act => cases offered
  | running draft =>
      cases command with
      | init options => cases offered
      | deinit => exact .inr (.inl ⟨draft, rfl, rfl, (Option.some.inj offered).symm⟩)
      | act action =>
          exact .inr (.inr ⟨draft, action, rfl, rfl, (Option.some.inj offered).symm⟩)

/-- A step of a draft and a step of validation are the same step. -/
theorem map_offer? {answer : Except Refusal Drafted}
    (offered : drafted.offer? command = some answer) :
    answer.map phase = command.apply drafted.phase := by
  rcases offer?_cases offered with
    ⟨draft, options, rfl, rfl, rfl⟩ | ⟨draft, rfl, rfl, rfl⟩ | ⟨draft, action, rfl, rfl, rfl⟩
  · rfl
  · rfl
  · rw [phase, ← draft.map_add action]
    cases draft.add action <;> rfl

theorem commands_offer? (offered : drafted.offer? command = some (.ok next)) :
    next.program.commands = drafted.program.commands ++ [command] := by
  rcases offer?_cases offered with
    ⟨draft, options, rfl, rfl, taken⟩ | ⟨draft, rfl, rfl, taken⟩ |
      ⟨draft, action, rfl, rfl, taken⟩
  · cases taken
    exact List.reverse_cons
  · cases taken
    exact List.reverse_cons
  · cases added : draft.add action with
    | error refusal =>
        rw [added] at taken
        cases taken
    | ok grown =>
        rw [added] at taken
        cases taken
        change grown.commands.reverse = draft.commands.reverse ++ [.act action]
        rw [draft.commands_add added, List.reverse_cons]

theorem offer?_of_apply {last : Phase} (accepted : command.apply drafted.phase = .ok last) :
    ∃ next, drafted.offer? command = some (.ok next) ∧ next.phase = last := by
  have offered : ∃ answer, drafted.offer? command = some answer := by
    cases drafted with
    | idle draft =>
        cases command with
        | init options => exact ⟨_, rfl⟩
        | deinit | act => cases accepted
    | running draft =>
        cases command with
        | init options => cases accepted
        | deinit | act => exact ⟨_, rfl⟩
  rcases offered with ⟨answer, offered⟩
  have same := map_offer? offered
  rw [accepted] at same
  cases answer with
  | error refusal => cases same
  | ok next => exact ⟨next, offered, Except.ok.inj same⟩

def Sound (drafted : Drafted) : Prop :=
  Phase.follow .inactive drafted.program.commands = .ok drafted.phase

theorem Sound.attempt (sound : drafted.Sound) (command : Command) :
    (drafted.attempt command).Sound := by
  unfold Drafted.attempt
  split
  · rename_i next offered
    have applied : command.apply drafted.phase = .ok next.phase := (map_offer? offered).symm
    rw [Sound, commands_offer? offered]
    apply (Phase.follow_append_eq_ok_iff _ _ _ _).mpr
    refine ⟨drafted.phase, sound, ?_⟩
    apply (Phase.follow_cons_eq_ok_iff _ _ _ _).mpr
    exact ⟨next.phase, applied, rfl⟩
  · exact sound

theorem sound_foldl (sound : drafted.Sound) (commands : List Command) :
    (commands.foldl Drafted.attempt drafted).Sound := by
  induction commands generalizing drafted with
  | nil => exact sound
  | cons command rest induction => exact induction (sound.attempt command)

theorem commands_foldl {commands : List Command} {last : Phase}
    (followed : drafted.phase.follow commands = .ok last) :
    (commands.foldl Drafted.attempt drafted).program.commands =
      drafted.program.commands ++ commands := by
  induction commands generalizing drafted with
  | nil => exact (List.append_nil _).symm
  | cons command rest induction =>
      rcases (Phase.follow_cons_eq_ok_iff _ _ _ _).mp followed with ⟨middle, applied, restFollowed⟩
      rcases offer?_of_apply applied with ⟨next, offered, rfl⟩
      have taken : drafted.attempt command = next := by
        rw [attempt, offered]
      rw [List.foldl_cons, taken, induction restFollowed, commands_offer? offered,
        List.append_assoc]
      rfl

/-- What is drafted is valid and leads where the draft says, each step is accepted or refused as
validation would do it at that point, and every valid program can be drafted. A step that the type
of a draft excludes would be refused by validation too. -/
theorem drafts_are_valid_programs :
    (∀ commands,
      Program.validateFrom .inactive (after commands).program.commands =
          .ok ((after commands).program, (after commands).phase) ∧
        (∀ command answer, (after commands).offer? command = some answer →
          answer.map phase = command.apply (after commands).phase ∧
            ∀ next, answer = .ok next →
              next.program.commands = (after commands).program.commands ++ [command]) ∧
        ∀ command, (after commands).offer? command = none →
          ∃ refusal, command.apply (after commands).phase = .error refusal) ∧
    (∀ commands program, Program.validate commands = .ok program →
      ∃ steps, (after steps).program = program) := by
  constructor
  · intro commands
    have empty : (idle .empty).Sound := rfl
    have sound : (after commands).Sound := sound_foldl empty commands
    refine ⟨(Program.validateFrom_eq_ok_iff _ _ _ _).mpr ⟨rfl, sound⟩, ?_, ?_⟩
    · intro command answer offered
      refine ⟨map_offer? offered, ?_⟩
      rintro next rfl
      exact commands_offer? offered
    · intro command excluded
      cases applied : command.apply (after commands).phase with
      | error refusal => exact ⟨refusal, rfl⟩
      | ok last =>
          rcases offer?_of_apply applied with ⟨next, offered, _⟩
          rw [excluded] at offered
          cases offered
  · intro commands program validated
    rcases (Program.validate_eq_ok_iff commands program).mp validated with ⟨rfl, last, followed⟩
    have start : Phase.follow (idle .empty).phase commands = .ok last := followed
    exact ⟨commands, congrArg Program.mk (commands_foldl start)⟩

/-- A color of an ended session is refused in the next one, and the program goes on without it. -/
theorem drafts_skip_foreign_colors :
    let foreign : Command := .act (.changeAttribute .set (.color ⟨"c"⟩))
    let opening : List Command := [.init {}, .act (.addColor "c" .red .black), .deinit, .init {}]
    let kept := opening ++ [.act (.readAs .key)]
    let drafted := after (opening ++ [foreign, .act (.readAs .key)])
    drafted.program = ⟨kept⟩ ∧
      drafted.offer? foreign = some (.error (.unknownColor "c")) ∧
      foreign.apply drafted.phase = .error (.unknownColor "c") ∧
      drafted.offer? (.init {}) = none ∧
      (∃ refusal, Command.apply (.init {}) drafted.phase = .error refusal) ∧
      Program.validate kept = .ok ⟨kept⟩ ∧ ∃ steps, (after steps).program = ⟨kept⟩ := by
  intro foreign opening kept drafted
  have offered : drafted.offer? foreign = some (.error (.unknownColor "c")) := rfl
  have excluded : drafted.offer? (.init {}) = none := rfl
  have validated : Program.validate kept = .ok ⟨kept⟩ := rfl
  have step := drafts_are_valid_programs.1 (opening ++ [foreign, .act (.readAs .key)])
  exact ⟨rfl, offered, (step.2.1 foreign _ offered).1.symm, excluded, step.2.2 _ excluded,
    validated, drafts_are_valid_programs.2 kept ⟨kept⟩ validated⟩

end Drafted

end TerminalSession
