import TerminalSession.Machine

/-! # Bindings that are changed where they are

A machine hands its bindings to the work on a command, and takes over what comes back if the work
succeeds. So a failure cannot change them. Here they lie beside the host in the state that the work
runs in, and each action changes them there when its turn comes. Both come to the same, because no
action fails any more once it has changed them. -/

namespace TerminalSession.Machine

/-! Before a session there are no bindings, and the actions of a session always find some. -/

structure Site (τ : Type) (β : Type) where
  host : Logged τ
  bindings : β

abbrev InPlace (τ β : Type) := EStateM Failure (Site τ β)

namespace InPlace

open Exchange (accept call note)

section

variable {τ α β γ : Type}

def onHost (work : Exchange τ α) : InPlace τ β α := fun site =>
  match work site.host with
  | .ok value host => .ok value { site with host }
  | .error failure host => .error failure { site with host }

def bindings : InPlace τ β β := fun site => .ok site.bindings site

def change (next : β → β) : InPlace τ β Unit := fun site =>
  .ok () { site with bindings := next site.bindings }

def inSession (work : InPlace τ Bindings α) : InPlace τ (Option Bindings) α := fun site =>
  match site.bindings with
  | none => .error (.refusal .notActive) site
  | some bindings =>
      match work ⟨site.host, bindings⟩ with
      | .ok value ⟨host, bindings⟩ => .ok value ⟨host, some bindings⟩
      | .error failure ⟨host, bindings⟩ => .error failure ⟨host, some bindings⟩

end

/-! ## Commands -/

section

variable {τ : Type} [Terminal τ]

def perform (session : Session) : Action → InPlace τ Bindings Outcome
  | .addWindow name position size border => do
      let before ← bindings
      let border ← onHost (border.mapM fun border => accept (before.resolveBorder border))
      let window ← onHost (createWindow name position size border)
      change (·.addWindow name border window)
      return .unit
  | .setWindow name => do
      let moved ← onHost (accept ((← bindings).setWindow name))
      change fun _ => moved
      return .unit
  | .unsetWindow => do
      let moved ← onHost (accept (← bindings).unsetWindow)
      change fun _ => moved
      return .unit
  | .addColor name foreground background => do
      let pair ← onHost (allocateColor (← bindings) name foreground background)
      change (·.addColor name pair)
      return .unit
  | .changeAttribute operation look => do
      let native ← onHost (accept ((← bindings).resolveAttribute look))
      onHost (call (.applyAttribute (← bindings).handle native operation))
      return .unit
  | .clear => do
      onHost (call (.clear (← bindings).handle))
      return .unit
  | .erase => do
      onHost (call (.erase (← bindings).handle))
      return .unit
  | .refresh => do
      onHost (call (.refresh (← bindings).handle))
      return .unit
  | .draw drawing => do
      onHost (draw (← bindings).handle drawing)
      return .unit
  | .getPosition => do
      let position ← onHost (call (.windowPosition (← bindings).handle))
      return .position position
  | .getSize => do
      let size ← onHost (call (.windowSize (← bindings).handle))
      return .size size
  | .setSize size => do
      onHost (call (.resizeWindow (← bindings).handle size))
      return .unit
  | .setEcho on => do
      onHost (call (.setRawMode session.cbreak on))
      return .unit
  | .setCbreak on => do
      onHost (call (.setRawMode on session.echo))
      return .unit
  | .setKeypad on => do
      onHost (call (.setKeypad (← bindings).handle on))
      change (·.setKeypad on)
      return .unit
  | .setNoDelay on => do
      onHost (call (.setNoDelay (← bindings).handle on))
      change (·.setNoDelay on)
      return .unit
  | .setCursor visibility => do
      onHost (call (.setCursor visibility))
      return .unit
  | .getInput | .readAs _ => do
      let input ← onHost (readCurrent (← bindings))
      return .input input
  | .require _ => return .unit

def dispatch (phase : Phase) : Command → InPlace τ (Option Bindings) Outcome
  | .init _ => do
      let fresh ← onHost openSession
      change fun _ => some fresh
      return .unit
  | .deinit => do
      onHost closeSession
      change fun _ => none
      return .unit
  | .act action =>
      match phase with
      | .active session => inSession (perform session action)
      | .inactive => throw (.refusal .notActive)

def execute (machine : Machine τ) (command : Command) : Except Failure Outcome × Machine τ :=
  match command.apply machine.phase with
  | .error refusal => (.error (.refusal refusal), machine)
  | .ok next =>
      let work : InPlace τ (Option Bindings) Outcome := do
        onHost (note .debug .machine ("Executing " ++ command.text))
        dispatch machine.phase command
      match work ⟨machine.host, machine.bindings⟩ with
      | .ok outcome site => (.ok outcome, ⟨site.host, next, site.bindings⟩)
      | .error failure site => (.error failure, ⟨site.host, machine.phase, site.bindings⟩)

end

/-! ## Bindings that are handed over

Work that was handed bindings settles in a state: it leaves there what it returns, and where it
fails it leaves what was there. -/

section

variable {τ α β γ : Type}

def settle (work : Exchange τ (α × β)) : InPlace τ β α := fun site =>
  match work site.host with
  | .ok (value, bindings) host => .ok value ⟨host, bindings⟩
  | .error failure host => .error failure { site with host }

theorem onHost_settles (bindings : β) (work : Exchange τ γ) {next : γ → InPlace τ β α}
    {handed : γ → Exchange τ (α × β)}
    (settles : ∀ value host,
      next value ⟨host, bindings⟩ = settle (handed value) ⟨host, bindings⟩)
    (host : Logged τ) :
    (onHost work >>= next) ⟨host, bindings⟩ = settle (work >>= handed) ⟨host, bindings⟩ := by
  simp only [settle, onHost, bind, EStateM.bind]
  cases work host with
  | ok value host => exact settles value host
  | error failure host => rfl

end

section

variable {τ : Type} [Terminal τ]

theorem perform_settles (session : Session) (bindings : Bindings) (action : Action)
    (host : Logged τ) :
    perform session action ⟨host, bindings⟩ =
      settle (Machine.perform session bindings action) ⟨host, bindings⟩ := by
  cases action with
  | addWindow name position size border =>
      apply onHost_settles
      intro border host
      apply onHost_settles
      exact fun _ _ => rfl
  | changeAttribute operation look =>
      apply onHost_settles
      intro native host
      apply onHost_settles
      exact fun _ _ => rfl
  | require requirement => rfl
  | _ =>
      apply onHost_settles
      exact fun _ _ => rfl

theorem dispatch_settles (phase : Phase) (bindings : Option Bindings) (command : Command)
    (host : Logged τ) :
    dispatch phase command ⟨host, bindings⟩ =
      settle (Machine.dispatch phase bindings command) ⟨host, bindings⟩ := by
  cases command with
  | init options =>
      apply onHost_settles
      exact fun _ _ => rfl
  | deinit =>
      apply onHost_settles
      exact fun _ _ => rfl
  | act action =>
      cases phase with
      | inactive => rfl
      | active session =>
          cases bindings with
          | none => rfl
          | some bindings =>
              simp only [dispatch, inSession, perform_settles, settle, Machine.dispatch, bind,
                EStateM.bind]
              cases Machine.perform session bindings action host <;> rfl

/-- A command that fails leaves the bindings as they were, although nobody puts them back. -/
theorem execute_eq (machine : Machine τ) (command : Command) :
    execute machine command = machine.execute command := by
  rcases machine with ⟨host, phase, bindings⟩
  cases applied : command.apply phase with
  | error refusal => simp only [execute, Machine.execute, applied]
  | ok next =>
      have settled := onHost_settles bindings
        (note .debug .machine ("Executing " ++ command.text))
        (fun _ host => dispatch_settles phase bindings command host) host
      simp only [execute, Machine.execute, applied]
      rw [settled]
      generalize (do
        note .debug .machine ("Executing " ++ command.text)
        Machine.dispatch phase bindings command : Exchange τ _) = work
      simp only [settle]
      cases work host <;> rfl

end

end InPlace

end TerminalSession.Machine
