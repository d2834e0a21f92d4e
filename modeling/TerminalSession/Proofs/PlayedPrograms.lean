import TerminalSession.Live
import TerminalSession.Proofs.DraftedPrograms
import TerminalSession.Proofs.ParallelWork

/-! # Live sessions and drafted programs do the same

The same steps can be taken in a live session or be drafted and run later. Both refuse the same
steps for the same reasons, and if no terminal fails the run leaves its terminal as the live session
does and returns what the live session returned. -/

namespace TerminalSession

/-! A live session has a method for each action, which returns what the action is about. What a
program returns for the same step can be told from that. -/

inductive Answer where
  | value (outcome : Outcome)
  | color (registered : RegisteredColor)
deriving DecidableEq, Repr

def Answer.outcome : Answer → Outcome
  | value outcome => outcome
  | color _ => .unit

variable {τ : Type} [Terminal τ]

namespace Live

open Machine

def act (live : Live τ) : Action → Except Failure Answer × Live τ
  | .addColor name foreground background =>
      (live.addColor name foreground background).map (·.map .color) id
  | .getPosition => live.getPosition.map (·.map fun position => .value (.position position)) id
  | .getSize => live.getSize.map (·.map fun size => .value (.size size)) id
  | .getInput => live.readAny.map (·.map fun input => .value (.input input)) id
  | .readAs shape =>
      (live.read shape).map (·.map fun value => .value (.input (shape.wrap value))) id
  | action => (live.perform action).map (·.map .value) id

def answerTo : Action → Outcome → Answer
  | .addColor name _ _, _ => .color ⟨name⟩
  | _, outcome => .value outcome

variable {live : Live τ}

theorem query_eq {α : Type} {action : Action} {expected : String} {extract : Outcome → Option α}
    {wrap : α → Outcome}
    (kind : ∀ outcome, (live.machine.execute (.act action)).1 = .ok outcome →
      ∃ value, extract outcome = some value ∧ wrap value = outcome) :
    (live.query action expected extract).map (·.map fun value => Answer.value (wrap value)) id =
      ((live.machine.execute (.act action)).1.map .value,
        ⟨(live.machine.execute (.act action)).2⟩) := by
  rw [query, perform]
  revert kind
  rcases live.machine.execute (.act action) with ⟨result, after⟩
  intro kind
  cases result with
  | error failure => rfl
  | ok outcome =>
      rcases kind outcome rfl with ⟨value, found, same⟩
      simp only [found, Prod.map, Except.map, same, id]

theorem kind_of_executed (inStep : InStep live.machine.phase live.machine.bindings)
    {action : Action} {outcome : Outcome}
    (done : (live.machine.execute (.act action)).1 = .ok outcome) :
    ∃ session, outcome.kind = action.outcomeKind session := by
  rcases accepted_of_executed inStep (Prod.ext done rfl) with ⟨accepted, kind⟩
  generalize live.machine.phase = phase at accepted kind
  generalize (live.machine.execute (.act action)).2.phase = next at accepted
  cases (Command.apply_eq_ok_iff _ _ _).mp accepted with
  | act met updated => exact ⟨_, kind⟩

omit [Terminal τ] in
theorem color_added {live : Live τ} {name : String} {foreground background : Color} {phase : Phase}
    (accepted : (Command.act (.addColor name foreground background)).apply phase =
      .ok live.machine.phase) : live.color name = .ok ⟨name⟩ := by
  generalize running : live.machine.phase = next at accepted
  cases (Command.apply_eq_ok_iff _ _ _).mp accepted with
  | act met updated =>
      cases Session.addColor_eq_ok updated
      rw [color, Live.session, running]
      simp [Phase.session, Session.color, Session.hasColor, bind, Except.bind]

theorem addColor_eq (inStep : InStep live.machine.phase live.machine.bindings) (name : String)
    (foreground background : Color) :
    live.addColor name foreground background =
      ((live.machine.execute (.act (.addColor name foreground background))).1.map fun _ => ⟨name⟩,
        ⟨(live.machine.execute (.act (.addColor name foreground background))).2⟩) := by
  rw [addColor, perform]
  rcases done : live.machine.execute (.act (.addColor name foreground background)) with
    ⟨result, after⟩
  cases result with
  | error failure => rfl
  | ok outcome =>
      have found : color ⟨after⟩ name = .ok ⟨name⟩ :=
        color_added (accepted_of_executed inStep done).1
      simp only [found]
      rfl

theorem act_eq (inStep : InStep live.machine.phase live.machine.bindings) {action : Action}
    (untyped : ∀ shape, action ≠ .readAs shape) :
    live.act action = ((live.machine.execute (.act action)).1.map (answerTo action),
      ⟨(live.machine.execute (.act action)).2⟩) := by
  cases action with
  | readAs shape => exact absurd rfl (untyped shape)
  | addColor name foreground background =>
      rw [act, addColor_eq inStep]
      cases (live.machine.execute (.act (.addColor name foreground background))).1 <;> rfl
  | getPosition =>
      apply query_eq
      intro outcome done
      rcases kind_of_executed inStep done with ⟨session, kind⟩
      cases outcome with
      | position position => exact ⟨position, rfl, rfl⟩
      | _ => cases kind
  | getSize =>
      apply query_eq
      intro outcome done
      rcases kind_of_executed inStep done with ⟨session, kind⟩
      cases outcome with
      | size size => exact ⟨size, rfl, rfl⟩
      | _ => cases kind
  | getInput =>
      apply query_eq
      intro outcome done
      rcases kind_of_executed inStep done with ⟨session, kind⟩
      cases outcome with
      | input input => exact ⟨input, rfl, rfl⟩
      | _ => cases kind
  | _ => rfl

/-- An outcome can be told from the answer it leads to. -/
theorem outcome_answerTo {session : Session} {action : Action} {outcome : Outcome}
    (kind : outcome.kind = action.outcomeKind session) :
    (answerTo action outcome).outcome = outcome := by
  cases action with
  | addColor name foreground background =>
      cases outcome with
      | unit => rfl
      | _ => cases kind
  | _ => rfl

/-- A method does what the command does, on every machine that differs in its log only. -/
theorem act_alike {other : Machine τ} (inStep : InStep live.machine.phase live.machine.bindings)
    (alike : Alike live.machine other) (action : Action) :
    (live.act action).1.map Answer.outcome = (other.execute (.act action)).1 ∧
      Alike (live.act action).2.machine (other.execute (.act action)).2 := by
  by_cases typed : ∃ shape, action = .readAs shape
  · rcases typed with ⟨shape, rfl⟩
    have same := read_alike inStep alike shape
    refine ⟨?_, same.2⟩
    rw [← same.1]
    change ((live.read shape).1.map _).map _ = _
    rw [read]
    cases (live.machine.read shape).1 <;> rfl
  · have same := execute_alike alike (.act action)
    rw [act_eq inStep fun shape equal => typed ⟨shape, equal⟩]
    refine ⟨?_, same.2⟩
    rw [← same.1]
    cases done : (live.machine.execute (.act action)).1 with
    | error failure => rfl
    | ok outcome =>
        rcases kind_of_executed inStep done with ⟨session, kind⟩
        exact congrArg Except.ok (outcome_answerTo kind)

theorem act_refused (inStep : InStep live.machine.phase live.machine.bindings) {action : Action}
    {refusal : Refusal} (refused : (live.act action).1 = .error (.refusal refusal)) :
    (live.act action).2 = live := by
  by_cases typed : ∃ shape, action = .readAs shape
  · rcases typed with ⟨shape, rfl⟩
    have undone := (read_inStep inStep shape).2
    change ((live.read shape).1.map _) = _ at refused
    change (live.read shape).2 = live
    rw [read] at refused ⊢
    rcases ran : live.machine.read shape with ⟨result, after⟩
    rw [ran] at refused undone
    cases result with
    | ok value => cases refused
    | error failure =>
        cases refused
        exact congrArg Live.mk undone
  · have undone := (execute_inStep inStep (.act action)).2
    rw [act_eq inStep fun shape equal => typed ⟨shape, equal⟩] at refused ⊢
    rcases ran : live.machine.execute (.act action) with ⟨result, after⟩
    rw [ran] at refused undone
    cases result with
    | ok outcome => cases refused
    | error failure =>
        cases refused
        exact congrArg Live.mk undone

end Live

/-! ## One step -/

inductive Played (τ : Type) where
  | idle (host : Logged τ)
  | running (live : Live τ)

namespace Played

open Machine

def terminal : Played τ → τ
  | idle host => host.terminal
  | running live => live.machine.terminal

def phase : Played τ → Phase
  | idle _ => .inactive
  | running live => live.machine.phase

def offer? : Played τ → Command → Option (Except Failure Answer × Played τ)
  | idle host, .init options =>
      match Live.init host options with
      | .ok live => some (.ok (.value .unit), running live)
      | .error (failure, left) => some (.error failure, idle left)
  | running live, .deinit =>
      some (live.deinit.1.map fun _ => .value .unit, idle live.deinit.2)
  | running live, .act action => some ((live.act action).1, running (live.act action).2)
  | _, _ => none

def attempt (played : Played τ) (command : Command) : Played τ :=
  match played.offer? command with
  | some (_, next) => next
  | none => played

def answer? (played : Played τ) (command : Command) : Option Answer :=
  match played.offer? command with
  | some (.ok answer, _) => some answer
  | _ => none

/-- A machine has run what was played: it has the same terminal, in the same session or in none. -/
inductive Follows : Played τ → Machine τ → Prop
  | idle {host : Logged τ} {machine : Machine τ} (terminal : host.terminal = machine.terminal)
      (phase : machine.phase = .inactive) (bindings : machine.bindings = none) :
      Follows (idle host) machine
  | running {live : Live τ} {machine : Machine τ} {session : Session}
      (active : live.machine.phase = .active session)
      (inStep : InStep live.machine.phase live.machine.bindings)
      (alike : Alike live.machine machine) : Follows (running live) machine

variable {played next : Played τ} {machine : Machine τ} {command : Command} {drafted : Drafted}

omit [Terminal τ] in
theorem Follows.phase (follows : Follows played machine) : played.phase = machine.phase := by
  cases follows with
  | idle terminal phase bindings => exact phase.symm
  | running active inStep alike => exact alike.phase

omit [Terminal τ] in
theorem Follows.terminal (follows : Follows played machine) :
    played.terminal = machine.terminal := by
  cases follows with
  | idle terminal phase bindings => exact terminal
  | running active inStep alike => exact alike.terminal

theorem execute_act_active {session : Session} (active : machine.phase = .active session)
    (inStep : InStep machine.phase machine.bindings) (action : Action) :
    ∃ next, (machine.execute (.act action)).2.phase = .active next := by
  rcases execute_cases inStep (.act action) with
    ⟨refusal, _, equal⟩ | ⟨next, given, host, bindings, accepted, _, _, equal⟩ |
      ⟨next, fault, host, _, equal⟩
  · rw [equal]
    exact ⟨session, active⟩
  · rw [equal]
    rw [active] at accepted
    cases (Command.apply_eq_ok_iff _ _ _).mp accepted with
    | act met updated => exact ⟨_, rfl⟩
  · rw [equal]
    exact ⟨session, active⟩

structure Steps (played : Played τ) (machine : Machine τ) (command : Command)
    (answer : Except Failure Answer) (next : Played τ) : Prop where
  outcome : answer.map Answer.outcome = (machine.execute command).1
  follows : (∀ fault, answer ≠ .error (.fault fault)) → Follows next (machine.execute command).2
  refused : ∀ refusal, answer = .error (.refusal refusal) → next = played

theorem steps_init {host : Logged τ} {options : SessionOptions} {answer : Except Failure Answer}
    (follows : Follows (idle host) machine)
    (offered : (idle host).offer? (.init options) = some (answer, next)) :
    Steps (idle host) machine (.init options) answer next := by
  cases follows with
  | idle terminal phase bindings =>
      have alike : Alike ⟨host, .inactive, none⟩ machine := ⟨terminal, phase.symm, bindings.symm⟩
      have same := execute_alike alike (.init options)
      have inStep : InStep (Machine.mk host .inactive none).phase none := .inactive
      rw [offer?, Live.init] at offered
      rcases execute_cases inStep (.init options) with
        ⟨refusal, refused, _⟩ | ⟨last, outcome, left, bound, accepted, kind, kept, equal⟩ |
          ⟨last, fault, left, _, equal⟩
      · cases refused
      · rw [equal] at offered same
        cases accepted
        cases offered
        cases outcome with
        | unit => exact ⟨same.1, fun _ => .running rfl kept same.2, by simp⟩
        | _ => cases kind
      · rw [equal] at offered same
        cases offered
        exact ⟨same.1, fun unfailing => absurd rfl (unfailing fault), by simp⟩

theorem steps_deinit {live : Live τ} {answer : Except Failure Answer}
    (follows : Follows (running live) machine)
    (offered : (running live).offer? .deinit = some (answer, next)) :
    Steps (running live) machine .deinit answer next := by
  cases follows with
  | running active inStep alike =>
      have same := execute_alike alike .deinit
      rw [offer?, Live.deinit] at offered
      rcases execute_cases inStep .deinit with
        ⟨refusal, refused, _⟩ | ⟨last, outcome, left, bound, accepted, kind, kept, equal⟩ |
          ⟨last, fault, left, _, equal⟩
      · rw [active] at refused
        cases refused
      · rw [active] at accepted
        cases accepted
        rw [equal] at offered same
        cases offered
        cases kept
        cases outcome with
        | unit =>
            exact ⟨same.1, fun _ => .idle same.2.terminal same.2.phase.symm same.2.bindings.symm,
              by simp [Except.map]⟩
        | _ => cases kind
      · rw [equal] at offered same
        cases offered
        exact ⟨same.1, fun unfailing => absurd rfl (unfailing fault), by simp [Except.map]⟩

theorem steps_act {live : Live τ} {action : Action} (follows : Follows (running live) machine) :
    Steps (running live) machine (.act action) (live.act action).1
      (running (live.act action).2) := by
  cases follows with
  | running active inStep alike =>
      have same := Live.act_alike inStep alike action
      have itself := (Live.act_alike inStep ⟨rfl, rfl, rfl⟩ action).2
      refine ⟨same.1, ?_, ?_⟩
      · intro _
        rcases execute_act_active active inStep action with ⟨session, goesOn⟩
        have kept := (execute_inStep inStep (.act action)).1
        rw [← itself.phase, ← itself.bindings] at kept
        exact .running (itself.phase.trans goesOn) kept same.2
      · intro refusal refused
        rw [Live.act_refused inStep refused]

theorem Follows.steps {answer : Except Failure Answer} (follows : Follows played machine)
    (offered : played.offer? command = some (answer, next)) :
    Steps played machine command answer next := by
  cases played with
  | idle host =>
      cases command with
      | init options => exact steps_init follows offered
      | deinit => cases offered
      | act action => cases offered
  | running live =>
      cases command with
      | init options => cases offered
      | deinit => exact steps_deinit follows offered
      | act action =>
          cases offered
          exact steps_act follows

omit [Terminal τ] in
theorem Follows.inStep (follows : Follows played machine) :
    InStep machine.phase machine.bindings := by
  cases follows with
  | idle terminal phase bindings =>
      rw [phase, bindings]
      exact .inactive
  | running active inStep alike =>
      rw [← alike.phase, ← alike.bindings]
      exact inStep

/-! ## The same steps, played and drafted

A step starts a session where there is none, and everything else needs one. What both offer is
refused for the same reason, or both take it, or the terminal fails the live session. -/

theorem Follows.offer?_eq_none_iff (follows : Follows played machine)
    (phase : drafted.phase = machine.phase) :
    drafted.offer? command = none ↔ played.offer? command = none := by
  cases follows with
  | @idle host _ terminal inactive bindings =>
      rw [inactive] at phase
      cases drafted with
      | running draft => cases phase
      | idle draft =>
          cases command with
          | init options =>
              simp only [Drafted.offer?, offer?]
              cases Live.init host options <;> simp
          | deinit | act => simp [Drafted.offer?, offer?]
  | running active inStep alike =>
      rw [← alike.phase, active] at phase
      cases drafted with
      | idle draft => cases phase
      | running draft => cases command <;> simp [Drafted.offer?, offer?]

inductive Answers (refusals : Except Refusal Drafted) (answer : Except Failure Answer) : Prop
  | refused (refusal : Refusal) (drafted : refusals = .error refusal)
      (played : answer = .error (.refusal refusal))
  | taken (next : Drafted) (given : Answer) (drafted : refusals = .ok next)
      (played : answer = .ok given)
  | failed (next : Drafted) (fault : Fault) (drafted : refusals = .ok next)
      (played : answer = .error (.fault fault))

theorem Follows.answers (follows : Follows played machine) (phase : drafted.phase = machine.phase)
    {refusals : Except Refusal Drafted} {answer : Except Failure Answer}
    (offered : drafted.offer? command = some refusals)
    (taken : played.offer? command = some (answer, next)) : Answers refusals answer := by
  have applied := Drafted.map_offer? offered
  have outcome := (follows.steps taken).outcome
  rw [phase] at applied
  rcases execute_cases follows.inStep command with
    ⟨refusal, refused, equal⟩ | ⟨last, given, host, bindings, accepted, _, _, equal⟩ |
      ⟨last, fault, host, accepted, equal⟩
  · rw [refused] at applied
    rw [equal] at outcome
    cases refusals with
    | ok draft => cases applied
    | error reason =>
        cases applied
        cases answer with
        | ok given => cases outcome
        | error failure =>
            cases outcome
            exact .refused refusal rfl rfl
  · rw [accepted] at applied
    rw [equal] at outcome
    cases refusals with
    | error reason => cases applied
    | ok draft =>
        cases answer with
        | error failure => cases outcome
        | ok answer => exact .taken draft answer rfl rfl
  · rw [accepted] at applied
    rw [equal] at outcome
    cases refusals with
    | error reason => cases applied
    | ok draft =>
        cases answer with
        | ok answer => cases outcome
        | error failure =>
            cases outcome
            exact .failed draft fault rfl rfl

/-- They refuse the same steps for the same reasons. -/
theorem Follows.refuses_iff (follows : Follows played machine)
    (phase : drafted.phase = machine.phase) (refusal : Refusal) :
    drafted.offer? command = some (.error refusal) ↔
      ∃ left, played.offer? command = some (.error (.refusal refusal), left) := by
  have same : drafted.offer? command = none ↔ played.offer? command = none :=
    follows.offer?_eq_none_iff phase
  cases taken : played.offer? command with
  | none =>
      rw [same.mpr taken]
      simp
  | some step =>
      rcases step with ⟨answer, next⟩
      cases offered : drafted.offer? command with
      | none =>
          rw [same.mp offered] at taken
          cases taken
      | some refusals =>
          cases follows.answers phase offered taken with
          | refused reason drafted played =>
              rw [drafted, played]
              simp
          | taken draft given drafted played =>
              rw [drafted, played]
              simp
          | failed draft fault drafted played =>
              rw [drafted, played]
              simp

/-! ## Any number of steps

Steps that were refused are skipped. -/

def after (played : Played τ) (commands : List Command) : Played τ := commands.foldl attempt played

def answers (played : Played τ) : List Command → List Answer
  | [] => []
  | command :: rest => (played.answer? command).toList ++ (played.attempt command).answers rest

def Unfailing (played : Played τ) : List Command → Prop
  | [] => True
  | command :: rest =>
      (∀ fault left, played.offer? command ≠ some (.error (.fault fault), left)) ∧
        (played.attempt command).Unfailing rest

/-! Whether a terminal fails is found out by taking the steps. -/

instance decidableUnfailing :
    (played : Played τ) → (commands : List Command) → Decidable (played.Unfailing commands)
  | _, [] => .isTrue trivial
  | played, command :: rest =>
      match taken : played.offer? command, decidableUnfailing (played.attempt command) rest with
      | _, .isFalse later => .isFalse fun unfailing => later unfailing.2
      | none, .isTrue later => .isTrue ⟨by simp [taken], later⟩
      | some (.ok _, _), .isTrue later => .isTrue ⟨by simp [taken], later⟩
      | some (.error (.refusal _), _), .isTrue later => .isTrue ⟨by simp [taken], later⟩
      | some (.error (.fault fault), left), .isTrue _ =>
          .isFalse fun unfailing => unfailing.1 fault left taken

/-- The draft leads where the live session is, and a run of it so far returned these outcomes and
left this machine. -/
structure Recorded (start : τ) (played : Played τ) (drafted : Drafted) (outcomes : List Outcome)
    (machine : Machine τ) : Prop where
  ran : (Machine.new start).run drafted.program = (.ok outcomes, machine)
  follows : Follows played machine
  phase : drafted.phase = machine.phase

theorem runAll_append {commands : List Command} {outcomes : List Outcome} {last : Machine τ}
    (ran : machine.runAll commands = (.ok outcomes, last)) (rest : List Command) :
    machine.runAll (commands ++ rest) =
      ((last.runAll rest).1.map (outcomes ++ ·), (last.runAll rest).2) := by
  induction commands generalizing machine outcomes with
  | nil =>
      rcases Prod.mk.inj ran with ⟨nothing, same⟩
      cases nothing
      rw [← same, List.nil_append]
      rcases machine.runAll rest with ⟨result, after⟩
      cases result <;> rfl
  | cons command earlier induction =>
      rcases done : machine.execute command with ⟨result, middle⟩
      rw [runAll, done] at ran
      rw [List.cons_append, runAll, done]
      cases result with
      | error failure => cases ran
      | ok outcome =>
          dsimp only at ran ⊢
          rcases ranEarlier : middle.runAll earlier with ⟨known, stop⟩
          rw [ranEarlier] at ran
          cases known with
          | error failure => cases ran
          | ok known =>
              cases ran
              rw [induction ranEarlier]
              rcases stop.runAll rest with ⟨result, after⟩
              cases result <;> rfl

theorem Recorded.attempt {start : τ} {outcomes : List Outcome}
    (recorded : Recorded start played drafted outcomes machine)
    (unfailing : ∀ fault left,
      played.offer? command ≠ some (.error (.fault fault), left)) :
    ∃ last, Recorded start (played.attempt command) (drafted.attempt command)
      (outcomes ++ (played.answer? command).toList.map Answer.outcome) last := by
  rcases recorded with ⟨ran, follows, phase⟩
  have same : drafted.offer? command = none ↔ played.offer? command = none :=
    follows.offer?_eq_none_iff phase
  unfold Played.attempt Drafted.attempt answer?
  cases taken : played.offer? command with
  | none =>
      rw [same.mpr taken]
      exact ⟨machine, by simpa using ran, follows, phase⟩
  | some step =>
      rcases step with ⟨answer, next⟩
      cases offered : drafted.offer? command with
      | none =>
          rw [same.mp offered] at taken
          cases taken
      | some refusals =>
          have steps := follows.steps taken
          cases follows.answers phase offered taken with
          | refused reason skipped refused =>
              subst skipped refused
              rw [steps.refused reason rfl]
              exact ⟨machine, by simpa using ran, follows, phase⟩
          | failed draft fault accepted failed =>
              subst failed
              exact absurd taken (unfailing fault next)
          | taken draft given accepted answered =>
              subst accepted answered
              have outcome := steps.outcome
              have kept := steps.follows (by simp)
              have applied : command.apply machine.phase = .ok draft.phase := by
                rw [← phase]
                exact (Drafted.map_offer? offered).symm
              rcases done : machine.execute command with ⟨result, last⟩
              rw [done] at outcome kept
              subst outcome
              have reached := (accepted_of_executed follows.inStep done).1
              rw [applied] at reached
              refine ⟨last, ?_, kept, Except.ok.inj reached⟩
              rw [run, Drafted.commands_offer? offered, runAll_append ran]
              simp [runAll, done, Except.map]

theorem Recorded.after {start : τ} {outcomes : List Outcome}
    (recorded : Recorded start played drafted outcomes machine) {commands : List Command}
    (unfailing : played.Unfailing commands) :
    ∃ last, Recorded start (played.after commands) (commands.foldl Drafted.attempt drafted)
      (outcomes ++ (played.answers commands).map Answer.outcome) last := by
  induction commands generalizing played drafted outcomes machine with
  | nil =>
      rw [answers, List.map_nil, List.append_nil]
      exact ⟨machine, recorded⟩
  | cons command rest induction =>
      rcases recorded.attempt unfailing.1 with ⟨middle, attempted⟩
      rcases induction attempted unfailing.2 with ⟨last, ended⟩
      rw [List.append_assoc, ← List.map_append] at ended
      exact ⟨last, ended⟩

theorem Unfailing.earlier {front back : List Command}
    (unfailing : played.Unfailing (front ++ back)) : played.Unfailing front := by
  induction front generalizing played with
  | nil => trivial
  | cons command rest induction => exact ⟨unfailing.1, induction unfailing.2⟩

/-- Steps that are taken in live sessions on a terminal which does not fail, and the program that is
drafted of them and run on such a terminal: at every point both are in the same phase and refuse the
same steps for the same reasons, and up to there the run has succeeded, leaves the terminal as the
live sessions left theirs, and returned what they returned. -/
theorem live_and_recorded_agree {start : τ} {commands : List Command}
    (unfailing : (idle { terminal := start }).Unfailing commands) :
    ∀ front back, commands = front ++ back →
      let drafted := Drafted.after front
      let played := (idle { terminal := start }).after front
      let ran := (Machine.new start).run drafted.program
      drafted.phase = played.phase ∧
        (∀ command, drafted.offer? command = none ↔ played.offer? command = none) ∧
        (∀ command refusal, drafted.offer? command = some (.error refusal) ↔
          ∃ left, played.offer? command = some (.error (.refusal refusal), left)) ∧
        (∀ command refusal left,
          played.offer? command = some (.error (.refusal refusal), left) → left = played) ∧
        ran.1 = .ok (((idle { terminal := start }).answers front).map Answer.outcome) ∧
        ran.2.terminal = played.terminal ∧ ran.2.phase = played.phase := by
  intro front back split drafted played ran
  rw [split] at unfailing
  have begun : Recorded start (idle { terminal := start }) (.idle .empty) [] (.new start) :=
    ⟨rfl, .idle rfl rfl rfl, rfl⟩
  rcases begun.after unfailing.earlier with ⟨last, recorded⟩
  have ended : ran = (.ok _, last) := recorded.ran
  have follows : Follows played last := recorded.follows
  have phase : drafted.phase = last.phase := recorded.phase
  refine ⟨phase.trans follows.phase.symm, fun _ => follows.offer?_eq_none_iff phase,
    fun _ => follows.refuses_iff phase, ?_, ?_, ?_, ?_⟩
  · intro command refusal left refused
    exact (follows.steps refused).refused refusal rfl
  · rw [ended]
    rfl
  · rw [ended]
    exact follows.terminal.symm
  · rw [ended]
    exact follows.phase.symm

/-- Two rounds on one recorder. The second asks for a window that is not there and for a key where
characters are read. Both steps are refused, and the character is still there to be read. -/
theorem two_rounds_agree :
    let start := Recorder.pushInput default [97, 98]
    let commands : List Command :=
      [.init {}, .act (.setKeypad false), .act .getInput, .deinit,
        .init {}, .act (.setWindow "log"), .act (.setKeypad false), .act (.readAs .key),
        .act (.addColor "ink" .red .black), .act (.readAs .char), .act .getSize, .deinit]
    let played := (idle { terminal := start }).after commands
    let ran := (Machine.new start).run (Drafted.after commands).program
    (idle { terminal := start }).Unfailing commands ∧
      ran.1 = .ok [.unit, .unit, .input (.char 'a'), .unit, .unit, .unit, .unit,
        .input (.char 'b'), .size ⟨24, 80⟩, .unit] ∧
      ran.2.terminal = played.terminal := by
  intro start commands played ran
  have unfailing : (idle { terminal := start }).Unfailing commands := by decide +kernel
  have agree := live_and_recorded_agree unfailing commands [] rfl
  have answered : ((idle { terminal := start }).answers commands).map Answer.outcome =
      [.unit, .unit, .input (.char 'a'), .unit, .unit, .unit, .unit, .input (.char 'b'),
        .size ⟨24, 80⟩, .unit] := by
    decide +kernel
  rcases agree with ⟨_, _, _, _, outcomes, terminal, _⟩
  rw [answered] at outcomes
  exact ⟨unfailing, outcomes, terminal⟩

end Played

end TerminalSession
