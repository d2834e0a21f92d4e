import TerminalSession.Proofs.LockStep

/-! # Which commands change a session

Most commands draw, ask or read, and leave session and bindings as they are. The others are
transitions: they change the session, and the bindings in the same way. What the keys mean is
settled when a session starts, and commands go to the same native window until the session is told
otherwise; a new window does not draw them to itself. -/

namespace TerminalSession

/-! ## Actions -/

namespace Action

def rebinds : Action → Bool
  | addWindow .. | setWindow _ | unsetWindow | addColor .. | setKeypad _ | setNoDelay _ => true
  | _ => false

def refocuses : Action → Bool
  | setWindow _ | unsetWindow => true
  | _ => false

inductive Binds (before : Bindings) : Action → Bindings → Prop
  | addWindow (name : String) (position : Position) (size : Size) (border : Option Border)
      (drawn : Option ResolvedBorder) (window : Handle) :
      Binds before (.addWindow name position size border) (before.addWindow name drawn window)
  | setWindow {name : String} {after : Bindings} (moved : before.setWindow name = .ok after) :
      Binds before (.setWindow name) after
  | unsetWindow {after : Bindings} (moved : before.unsetWindow = .ok after) :
      Binds before .unsetWindow after
  | addColor (name : String) (foreground background : Color) (pair : ColorPair) :
      Binds before (.addColor name foreground background) (before.addColor name pair)
  | setKeypad (on : Bool) : Binds before (.setKeypad on) (before.setKeypad on)
  | setNoDelay (on : Bool) : Binds before (.setNoDelay on) (before.setNoDelay on)
  | other {action : Action} (unbound : action.rebinds = false) : Binds before action before

variable {action : Action} {before after : Bindings}

theorem rebinds_of_steady (steady : action.isTransition = false) : action.rebinds = false := by
  cases action with
  | addWindow | setWindow | unsetWindow | addColor | setKeypad | setNoDelay => cases steady
  | _ => rfl

theorem update_of_steady (steady : action.isTransition = false) (session : Session) :
    action.update session = .ok session := by
  cases action with
  | addWindow | setWindow | unsetWindow | addColor | setEcho | setCbreak | setKeypad
  | setNoDelay => cases steady
  | _ => rfl

theorem Binds.eq_of_unbound (binds : Binds before action after)
    (unbound : action.rebinds = false) : after = before := by
  cases binds with
  | other => rfl
  | _ => cases unbound

end Action

theorem Bindings.keys_setWindow {before after : Bindings} {name : String}
    (moved : before.setWindow name = .ok after) : after.keys = before.keys := by
  unfold setWindow at moved
  split at moved
  · cases moved
    rfl
  · cases moved

namespace Action

variable {action : Action} {before after : Bindings}

theorem Binds.keys_eq (binds : Binds before action after) : after.keys = before.keys := by
  cases binds with
  | setWindow moved => exact Bindings.keys_setWindow moved
  | unsetWindow moved => exact Bindings.keys_setWindow moved
  | _ => rfl

theorem Binds.handle_eq (binds : Binds before action after) (focused : action.refocuses = false) :
    after.handle = before.handle := by
  cases binds with
  | setWindow | unsetWindow => cases focused
  | _ => rfl

end Action

namespace Machine

open Exchange

variable {τ : Type} [Terminal τ] {host : Logged τ} {bindings : Bindings}

omit [Terminal τ] in
/-- Whatever an action does first, what it makes of the bindings comes last. -/
theorem ends_binds {α : Type} {action : Action} (work : Exchange τ α) {outcome : α → Outcome}
    {after : α → Bindings} (binds : ∀ value, action.Binds bindings (after value)) :
    Ends (do
        let value ← work
        return (outcome value, after value)) host
      (fun result _ => action.Binds bindings result.2) (fun _ _ => True) := by
  rw [ends_bind]
  apply (ends_true work host).mono
  · intro value _ _
    exact binds value
  · intros
    trivial

theorem perform_binds (session : Session) (bindings : Bindings) (action : Action) :
    Ends (perform session bindings action) host
      (fun result _ => action.Binds bindings result.2) (fun _ _ => True) := by
  cases action with
  | addWindow name position size border =>
      rw [perform, ends_bind]
      apply (ends_true _ host).mono
      · intro drawn middle _
        exact ends_binds _ fun window => .addWindow name position size border drawn window
      · intros
        trivial
  | setWindow name =>
      simp only [perform, ends_bind, ends_accept, ends_pure]
      cases moved : bindings.setWindow name with
      | error refusal => trivial
      | ok after => exact .setWindow moved
  | unsetWindow =>
      simp only [perform, ends_bind, ends_accept, ends_pure]
      cases moved : bindings.unsetWindow with
      | error refusal => trivial
      | ok after => exact .unsetWindow moved
  | changeAttribute operation look =>
      rw [perform, ends_bind, ends_accept]
      cases bindings.resolveAttribute look with
      | error refusal => trivial
      | ok native => exact ends_binds _ fun _ => .other rfl
  | addColor name foreground background =>
      exact ends_binds _ fun pair => .addColor name foreground background pair
  | setKeypad on => exact ends_binds _ fun _ => .setKeypad on
  | setNoDelay on => exact ends_binds _ fun _ => .setNoDelay on
  | require requirement => exact .other rfl
  | _ => exact ends_binds _ fun _ => .other rfl

end Machine

/-! ## Commands -/

namespace Command

def isBoundary : Command → Bool
  | init _ | deinit => true
  | act _ => false

def refocuses : Command → Bool
  | init _ | deinit => true
  | act action => action.refocuses

structure Spares (command : Command) (before after : Option Bindings) : Prop where
  steady : command.isTransition = false → after = before
  keys : command.isBoundary = false → after.map Bindings.keys = before.map Bindings.keys
  handle : command.refocuses = false → after.map Bindings.handle = before.map Bindings.handle

theorem Leads.eq_of_steady {command : Command} {phase next : Phase}
    (leads : command.Leads phase next) (steady : command.isTransition = false) : next = phase := by
  cases leads with
  | init options => cases steady
  | deinit session => cases steady
  | act met updated =>
      rw [Action.update_of_steady steady] at updated
      cases updated
      rfl

end Command

namespace Machine

variable {τ : Type} [Terminal τ] {host : Logged τ}

theorem dispatch_spares (phase : Phase) (before : Option Bindings) (command : Command) :
    Ends (dispatch phase before command) host
      (fun answer _ => command.Spares before answer.2) (fun _ _ => True) := by
  cases command with
  | init options =>
      apply (ends_true _ host).mono
      · intros
        exact ⟨nofun, nofun, nofun⟩
      · intros
        trivial
  | deinit =>
      apply (ends_true _ host).mono
      · intros
        exact ⟨nofun, nofun, nofun⟩
      · intros
        trivial
  | act action =>
      cases phase with
      | inactive => trivial
      | active session =>
          cases before with
          | none => trivial
          | some bindings =>
              simp only [dispatch, bind_pure_comp, ends_map]
              apply (perform_binds session bindings action).mono
              · intro result _ binds
                refine ⟨?_, ?_, ?_⟩
                · intro steady
                  rw [binds.eq_of_unbound (Action.rebinds_of_steady steady)]
                · intro _
                  rw [Option.map_some, Option.map_some, binds.keys_eq]
                · intro focused
                  rw [Option.map_some, Option.map_some, binds.handle_eq focused]
              · intros
                trivial

theorem execute_spares (machine : Machine τ) (command : Command) :
    match machine.execute command with
    | (.ok _, after) => command.Spares machine.bindings after.bindings
    | (.error _, after) =>
        after.phase = machine.phase ∧ after.bindings = machine.bindings := by
  apply execute_rule machine command (motive := fun result =>
    match result with
    | (.ok _, after) => command.Spares machine.bindings after.bindings
    | (.error _, after) => after.phase = machine.phase ∧ after.bindings = machine.bindings)
  · intro refusal _
    exact ⟨rfl, rfl⟩
  · intro next log _
    apply (dispatch_spares machine.phase machine.bindings command).mono
    · intro answer _ spares
      exact spares
    · intro _ _ _
      exact ⟨rfl, rfl⟩

/-- A command that is no transition changes neither the session nor the bindings, whether it
succeeds or not. A transition that succeeds changes both in the same way. The table of keys changes
only where a session starts or ends, and the native window that commands go to only there and where
another window is chosen. -/
theorem only_transitions_change_session {world : τ → τ → Prop} {machine : Machine τ}
    (reached : machine.Reachable world) (command : Command) :
    (command.isTransition = false →
      (∀ phase next, command.apply phase = .ok next → next = phase) ∧
        (machine.execute command).2.phase = machine.phase ∧
          (machine.execute command).2.bindings = machine.bindings) ∧
    ∀ outcome after, machine.execute command = (.ok outcome, after) →
      command.apply machine.phase = .ok after.phase ∧ after.isConsistent = true ∧
        (command.isBoundary = false →
          after.bindings.map Bindings.keys = machine.bindings.map Bindings.keys) ∧
        (command.refocuses = false →
          after.bindings.map Bindings.handle = machine.bindings.map Bindings.handle) := by
  have inStep := reached.inStep
  have spares := machine.execute_spares command
  constructor
  · intro steady
    have kept : ∀ phase next, command.apply phase = .ok next → next = phase := by
      intro phase next accepted
      exact ((Command.apply_eq_ok_iff command phase next).mp accepted).eq_of_steady steady
    refine ⟨kept, ?_⟩
    rcases executed : machine.execute command with ⟨result, after⟩
    rw [executed] at spares
    cases result with
    | error failure => exact spares
    | ok outcome =>
        have accepted := (accepted_of_executed inStep executed).1
        exact ⟨kept _ _ accepted, spares.steady steady⟩
  · intro outcome after executed
    have accepted := (accepted_of_executed inStep executed).1
    have consistent := (execute_inStep inStep command).1
    rw [executed] at spares consistent
    exact ⟨accepted, (isConsistent_iff after).mpr consistent, spares.keys, spares.handle⟩

/-- The new window comes before the current one in both lists, and drawing still goes to the current
one. -/
theorem new_window_is_not_drawn_to :
    let small : Size := ⟨2, 2⟩
    let framed := execute (execute (.new (default : Recorder)) (.init {})).2
      (.act (.addWindow "w" .origin small (some ⟨.ascii, none⟩)))
    let machine := (framed.2.execute (.act (.setWindow "w"))).2
    let added := machine.execute (.act (.addWindow "w" .origin small none))
    machine.Reachable Eq ∧ added.1 = .ok .unit ∧ added.2.isConsistent = true ∧
      added.2.bindings.map Bindings.handle = some 1 := by
  intro small framed machine added
  have reached : machine.Reachable Eq := .execute (.execute (.execute (.new _) _) _) _
  have answered : added.1 = .ok .unit := rfl
  have done : added = (.ok .unit, added.2) := by rw [← answered]
  have aimed : machine.bindings.map Bindings.handle = some 1 := by decide +kernel
  rcases (only_transitions_change_session reached _).2 _ _ done with ⟨_, consistent, _, handle⟩
  exact ⟨reached, answered, consistent, (handle rfl).trans aimed⟩

end Machine

end TerminalSession
