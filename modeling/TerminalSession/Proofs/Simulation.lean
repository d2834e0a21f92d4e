import TerminalSession.Proofs.LockStep

/-! # Work on terminals that answer alike

The work of a machine is the same on every terminal. So where two terminals answer every call alike,
and look alike again afterwards, everything a machine does on the one it also does on the other.
What it means to look alike is left open: it is a relation between the terminals with their logs,
which calls and notes keep. -/

namespace TerminalSession

namespace Exchange

variable {σ τ α β : Type}

inductive Matches (resembles : Logged σ → Logged τ → Prop) :
    EStateM.Result Failure (Logged σ) α → EStateM.Result Failure (Logged τ) α → Prop
  | ok (value : α) {stop : Logged σ} {last : Logged τ} (alike : resembles stop last) :
      Matches resembles (.ok value stop) (.ok value last)
  | error (failure : Failure) {stop : Logged σ} {last : Logged τ} (alike : resembles stop last) :
      Matches resembles (.error failure stop) (.error failure last)

/-- From terminals that look alike both pieces of work come to matching ends. -/
def Echoes (resembles : Logged σ → Logged τ → Prop) (work : Exchange σ α) (other : Exchange τ α) :
    Prop :=
  ∀ start first, resembles start first → Matches resembles (work start) (other first)

/-- Terminals that look alike answer alike, and go on looking alike. -/
structure Mimics [Terminal σ] [Terminal τ] (resembles : Logged σ → Logged τ → Prop) : Prop where
  call (called : Call) : Echoes resembles (Exchange.call called) (Exchange.call called)
  note (level : Log.Level) (source : Log.Source) (message : String) :
    Echoes resembles (Exchange.note level source message) (Exchange.note level source message)

variable {resembles : Logged σ → Logged τ → Prop}

namespace Echoes

theorem pure (value : α) :
    Echoes resembles (Pure.pure value : Exchange σ α) (Pure.pure value : Exchange τ α) :=
  fun _ _ alike => .ok value alike

theorem throw (failure : Failure) :
    Echoes resembles (MonadExcept.throw failure : Exchange σ α)
      (MonadExcept.throw failure : Exchange τ α) :=
  fun _ _ alike => .error failure alike

theorem bind {work : Exchange σ α} {other : Exchange τ α} {next : α → Exchange σ β}
    {following : α → Exchange τ β} (first : Echoes resembles work other)
    (second : ∀ value, Echoes resembles (next value) (following value)) :
    Echoes resembles (work >>= next) (other >>= following) := by
  intro start origin alike
  have ended := first start origin alike
  simp only [Bind.bind, EStateM.bind]
  generalize work start = left at ended ⊢
  generalize other origin = right at ended ⊢
  cases ended with
  | ok value alike => exact second value _ _ alike
  | error failure alike => exact .error failure alike

theorem tryCatch {work : Exchange σ α} {other : Exchange τ α} {recover : Failure → Exchange σ α}
    {rescue : Failure → Exchange τ α} (first : Echoes resembles work other)
    (second : ∀ failure, Echoes resembles (recover failure) (rescue failure)) :
    Echoes resembles (tryCatch work recover) (tryCatch other rescue) := by
  intro start origin alike
  have ended := first start origin alike
  have caught : (MonadExcept.tryCatch work recover : Exchange σ α) start =
      EStateM.tryCatch work recover start := rfl
  have rescued : (MonadExcept.tryCatch other rescue : Exchange τ α) origin =
      EStateM.tryCatch other rescue origin := rfl
  rw [caught, rescued]
  delta EStateM.tryCatch
  dsimp only
  generalize work start = left at ended ⊢
  generalize other origin = right at ended ⊢
  cases ended with
  | ok value alike => exact .ok value alike
  | error failure alike => exact second failure _ _ alike

theorem accept_bind {checked : Except Refusal α} {next : α → Exchange σ β}
    {following : α → Exchange τ β}
    (rest : ∀ value, Echoes resembles (next value) (following value)) :
    Echoes resembles (accept checked >>= next) (accept checked >>= following) := by
  cases checked with
  | ok value => exact rest value
  | error refusal => exact throw _

end Echoes

end Exchange

namespace Machine

open Exchange

variable {σ τ : Type} [Terminal σ] [Terminal τ] {resembles : Logged σ → Logged τ → Prop}
  {bindings : Bindings}

theorem prepareWindow_echoes (mimics : Mimics resembles) (window : Handle)
    (border : Option ResolvedBorder) :
    Echoes resembles (prepareWindow window border) (prepareWindow window border) := by
  apply (mimics.call _).bind
  intro _
  apply (mimics.call _).bind
  intro _
  cases border with
  | none => exact .pure _
  | some border => exact mimics.call _

theorem createWindow_echoes (mimics : Mimics resembles) (name : String) (position : Position)
    (size : Size) (border : Option ResolvedBorder) :
    Echoes resembles (createWindow name position size border)
      (createWindow name position size border) := by
  apply (mimics.call _).bind
  intro window
  apply Echoes.bind
  · apply (prepareWindow_echoes mimics window border).tryCatch
    intro failure
    apply ((mimics.call _).tryCatch fun _ => mimics.note _ _ _).bind
    intro _
    exact .throw failure
  · intro _
    exact .pure _

theorem addWindow_echoes (mimics : Mimics resembles) (session : Session) (name : String)
    (position : Position) (size : Size) (border : Option Border) :
    Echoes resembles (perform session bindings (.addWindow name position size border))
      (perform session bindings (.addWindow name position size border)) := by
  cases border with
  | none => exact (createWindow_echoes mimics name position size none).bind fun _ => .pure _
  | some border =>
      simp only [perform, Option.mapM_some, map_eq_pure_bind, bind_assoc, pure_bind]
      apply Echoes.accept_bind
      intro resolved
      exact (createWindow_echoes mimics name position size resolved).bind fun _ => .pure _

theorem allocateColor_echoes (mimics : Mimics resembles) (name : String)
    (foreground background : Color) :
    Echoes resembles (allocateColor bindings name foreground background)
      (allocateColor bindings name foreground background) := by
  have allocated : Echoes resembles
      (do
        let pair ← call (.allocatePair foreground background)
        note .debug .machine ("Color '" ++ name ++ "' bound to pair " ++ toString pair)
        return pair)
      (do
        let pair ← call (.allocatePair foreground background)
        note .debug .machine ("Color '" ++ name ++ "' bound to pair " ++ toString pair)
        return pair) := by
    apply (mimics.call _).bind
    intro pair
    exact (mimics.note _ _ _).bind fun _ => .pure _
  unfold allocateColor
  split
  · exact (mimics.call _).bind fun _ => allocated
  · exact allocated

theorem draw_echoes (mimics : Mimics resembles) (window : Handle) (drawing : Drawing) :
    Echoes resembles (draw window drawing) (draw window drawing) := by
  cases drawing with
  | line text => exact (mimics.call _).bind fun _ => mimics.call _
  | _ => exact mimics.call _

theorem readCurrent_echoes (mimics : Mimics resembles) :
    Echoes resembles (readCurrent bindings) (readCurrent bindings) := by
  apply (mimics.call _).bind
  intro delivered
  cases bindings.current.window.shape.resolve delivered bindings.keys with
  | none => exact .throw _
  | some input => exact .pure _

theorem readBound_echoes (mimics : Mimics resembles) (bindings : Bindings) (shape : ReadShape) :
    Echoes resembles (readBound bindings shape) (readBound bindings shape) := by
  apply (mimics.call _).bind
  intro delivered
  cases shape.decode delivered bindings.keys with
  | none => exact .throw _
  | some value => exact .pure _

theorem perform_echoes (mimics : Mimics resembles) (session : Session) (bindings : Bindings)
    (action : Action) :
    Echoes resembles (perform session bindings action) (perform session bindings action) := by
  cases action with
  | addWindow name position size border =>
      exact addWindow_echoes mimics session name position size border
  | setWindow name => exact .accept_bind fun _ => .pure _
  | unsetWindow => exact .accept_bind fun _ => .pure _
  | addColor name foreground background =>
      exact (allocateColor_echoes mimics name foreground background).bind fun _ => .pure _
  | changeAttribute operation look =>
      apply Echoes.accept_bind
      intro native
      exact (mimics.call _).bind fun _ => .pure _
  | draw drawing => exact (draw_echoes mimics _ drawing).bind fun _ => .pure _
  | getInput | readAs shape => exact (readCurrent_echoes mimics).bind fun _ => .pure _
  | require requirement => exact .pure _
  | _ => exact (mimics.call _).bind fun _ => .pure _

theorem openSession_echoes (mimics : Mimics resembles) :
    Echoes resembles openSession openSession := by
  apply (mimics.call _).bind
  intro screen
  apply (mimics.call _).bind
  intro _
  apply (mimics.call _).bind
  intro _
  apply (mimics.call _).bind
  intro _
  apply (mimics.call _).bind
  intro keys
  exact (mimics.note _ _ _).bind fun _ => .pure _

/-- A machine does the same on both terminals. -/
theorem dispatch_echoes (mimics : Mimics resembles) (phase : Phase) (bindings : Option Bindings)
    (command : Command) :
    Echoes resembles (dispatch phase bindings command) (dispatch phase bindings command) := by
  cases command with
  | init options => exact (openSession_echoes mimics).bind fun _ => .pure _
  | deinit =>
      have closed : Echoes resembles closeSession closeSession :=
        (mimics.call _).bind fun _ => mimics.note _ _ _
      exact closed.bind fun _ => .pure _
  | act action =>
      cases phase with
      | inactive => exact .throw _
      | active session =>
          cases bindings with
          | none => exact .throw _
          | some bindings =>
              exact (perform_echoes mimics session bindings action).bind fun _ => .pure _

/-! ## Steps taken alongside -/

section

variable {machine : Machine τ}

/-! Every command is announced in the log before it is carried out. -/

def announced (machine : Machine τ) (command : Command) : Logged τ where
  terminal := machine.terminal
  log := ⟨.debug, .machine, "Executing " ++ command.text⟩ :: machine.host.log

theorem execute_refused {command : Command} {refusal : Refusal}
    (refused : command.apply machine.phase = .error refusal) :
    machine.execute command = (.error (.refusal refusal), machine) := by
  simp only [execute, refused]

theorem execute_accepted {command : Command} {next : Phase}
    (accepted : command.apply machine.phase = .ok next) :
    machine.execute command =
      match dispatch machine.phase machine.bindings command (machine.announced command) with
      | .ok (outcome, bindings) host => (.ok outcome, ⟨host, next, bindings⟩)
      | .error failure host => (.error failure, { machine with host }) := by
  simp only [execute, accepted]
  rfl

theorem read_refused {shape : ReadShape} {refusal : Refusal}
    (refused : (Command.act (.readAs shape)).check machine.phase = .error refusal) :
    machine.read shape = (.error (.refusal refusal), machine) := by
  simp only [read, refused]
  rfl

theorem read_unbound {shape : ReadShape} (unbound : machine.bindings = none)
    (accepted : (Command.act (.readAs shape)).check machine.phase = .ok ()) :
    machine.read shape = (.error (.refusal .notActive), machine) := by
  rcases machine with ⟨host, phase, bindings⟩
  cases unbound
  simp only [read, accepted]
  rfl

theorem read_accepted {shape : ReadShape} (bound : machine.bindings = some bindings)
    (accepted : (Command.act (.readAs shape)).check machine.phase = .ok ()) :
    machine.read shape =
      match readBound bindings shape machine.host with
      | .ok value host => (.ok value, { machine with host })
      | .error failure host => (.error failure, { machine with host }) := by
  simp only [read, bound, accepted]
  rfl

end

structure Alongside (resembles : Logged σ → Logged τ → Prop) (machine : Machine σ)
    (other : Machine τ) : Prop where
  host : resembles machine.host other.host
  phase : machine.phase = other.phase
  bindings : machine.bindings = other.bindings

variable {machine : Machine σ} {other : Machine τ}

theorem execute_alongside (mimics : Mimics resembles) (along : Alongside resembles machine other)
    (command : Command) :
    (machine.execute command).1 = (other.execute command).1 ∧
      Alongside resembles (machine.execute command).2 (other.execute command).2 := by
  cases applied : command.apply machine.phase with
  | error refusal =>
      rw [execute_refused applied, execute_refused (along.phase ▸ applied)]
      exact ⟨rfl, along⟩
  | ok next =>
      rw [execute_accepted applied, execute_accepted (along.phase ▸ applied), along.phase,
        along.bindings]
      have announced := mimics.note .debug .machine ("Executing " ++ command.text) _ _ along.host
      have resembling : resembles (machine.announced command) (other.announced command) := by
        cases announced with
        | ok _ alike => exact alike
      have ended := dispatch_echoes mimics other.phase other.bindings command _ _ resembling
      generalize dispatch other.phase other.bindings command (machine.announced command) = left
        at ended ⊢
      generalize dispatch other.phase other.bindings command (other.announced command) = right
        at ended ⊢
      cases ended with
      | ok answer alike => exact ⟨rfl, alike, rfl, rfl⟩
      | error failure alike => exact ⟨rfl, alike, rfl, rfl⟩

theorem read_alongside (mimics : Mimics resembles) (along : Alongside resembles machine other)
    (shape : ReadShape) :
    (machine.read shape).1 = (other.read shape).1 ∧
      Alongside resembles (machine.read shape).2 (other.read shape).2 := by
  cases checked : (Command.act (.readAs shape)).check machine.phase with
  | error refusal =>
      rw [read_refused checked, read_refused (along.phase ▸ checked)]
      exact ⟨rfl, along⟩
  | ok passed =>
      cases bound : machine.bindings with
      | none =>
          rw [read_unbound bound checked,
            read_unbound (along.bindings ▸ bound) (along.phase ▸ checked)]
          exact ⟨rfl, along⟩
      | some bindings =>
          rw [read_accepted bound checked,
            read_accepted (along.bindings ▸ bound) (along.phase ▸ checked)]
          have ended := readBound_echoes mimics bindings shape _ _ along.host
          generalize readBound bindings shape machine.host = left at ended ⊢
          generalize readBound bindings shape other.host = right at ended ⊢
          cases ended with
          | ok value alike => exact ⟨rfl, alike, along.phase, along.bindings⟩
          | error failure alike => exact ⟨rfl, alike, along.phase, along.bindings⟩

end Machine

end TerminalSession
