import TerminalSession.Proofs.Execution
import TerminalSession.Proofs.Native

/-! # No handle is stale

While a session runs, the native windows are exactly the ones that are bound, with the flags that
the bindings say, and the input modes are those of the session. So no call of a command is about a
window that is not there, and a window that could not be prepared does not stay behind. -/

namespace TerminalSession

def Window.inputFlags (window : Window) : InputFlags := ⟨window.keypad, window.noDelay⟩

namespace Bindings

def handles (bindings : Bindings) : List Handle := bindings.windows.toList.map (·.handle)

def flags (bindings : Bindings) (handle : Handle) : Option InputFlags :=
  (bindings.windows.toList.find? (·.handle = handle)).map (·.window.inputFlags)

def native (bindings : Bindings) (session : Session) : Native :=
  ⟨bindings.flags, session.cbreak, session.echo⟩

variable {bindings : Bindings}

theorem flags_eq_none_iff (handle : Handle) :
    bindings.flags handle = none ↔ handle ∉ bindings.handles := by
  simp [flags, handles]

theorem flags_fresh (screen : Handle) (keys : KeyTable) :
    (fresh screen keys).flags = Function.update (fun _ => none) screen (some ⟨true, false⟩) := by
  funext other
  by_cases same : screen = other
  · simp [flags, fresh, same, Window.inputFlags]
  · simp [flags, fresh, same, Ne.symm same]

theorem flags_addWindow (bindings : Bindings) (name : String) (border : Option ResolvedBorder)
    (handle : Handle) :
    (bindings.addWindow name border handle).flags =
      Function.update bindings.flags handle (some ⟨true, false⟩) := by
  funext other
  by_cases same : handle = other
  · simp [flags, addWindow, same, Window.inputFlags]
  · simp [flags, addWindow, same, Ne.symm same]

theorem toList_setWindow {name : String} {after : Bindings}
    (moved : bindings.setWindow name = .ok after) :
    after.windows.toList = bindings.windows.toList := by
  rw [setWindow] at moved
  split at moved
  · rename_i windows selected
    cases moved
    exact Focus.toList_select? selected
  · cases moved

theorem handles_addWindow (bindings : Bindings) (name : String) (border : Option ResolvedBorder)
    (handle : Handle) :
    (bindings.addWindow name border handle).handles = handle :: bindings.handles := by
  simp [handles, addWindow]

theorem handles_setWindow {name : String} {after : Bindings}
    (moved : bindings.setWindow name = .ok after) : after.handles = bindings.handles := by
  rw [handles, toList_setWindow moved, handles]

theorem flags_setWindow {name : String} {after : Bindings}
    (moved : bindings.setWindow name = .ok after) : after.flags = bindings.flags := by
  funext handle
  rw [flags, toList_setWindow moved, flags]

theorem handles_modifyWindow (bindings : Bindings) (change : Window → Window) :
    (bindings.modifyWindow change).handles = bindings.handles := by
  simp [handles, modifyWindow, Focus.modify, Focus.toList]

theorem find?_handle {members : List BoundWindow} (distinct : (members.map (·.handle)).Nodup)
    {bound : BoundWindow} (member : bound ∈ members) :
    members.find? (·.handle = bound.handle) = some bound := by
  induction members with
  | nil => cases member
  | cons first rest induction =>
      rw [List.map_cons, List.nodup_cons] at distinct
      rcases List.mem_cons.mp member with rfl | later
      · simp
      · have apart : first.handle ≠ bound.handle := by
          intro equal
          exact distinct.1 (equal ▸ List.mem_map_of_mem later)
        simp [apart, induction distinct.2 later]

theorem flags_of_mem (distinct : bindings.handles.Nodup) {bound : BoundWindow}
    (member : bound ∈ bindings.windows.toList) :
    bindings.flags bound.handle = some bound.window.inputFlags := by
  rw [flags, find?_handle distinct member]
  rfl

theorem flags_handle (distinct : bindings.handles.Nodup) :
    bindings.flags bindings.handle = some bindings.current.window.inputFlags :=
  flags_of_mem distinct (List.mem_append_right _ (List.mem_cons_self ..))

theorem flags_modifyWindow (distinct : bindings.handles.Nodup) (change : Window → Window) :
    (bindings.modifyWindow change).flags = Function.update bindings.flags bindings.handle
      (some (change bindings.current.window).inputFlags) := by
  funext other
  by_cases same : other = bindings.handle
  · subst same
    have unchanged : (bindings.modifyWindow change).handle = bindings.handle := rfl
    have still : (bindings.modifyWindow change).handles.Nodup := by
      rw [handles_modifyWindow]
      exact distinct
    rw [Function.update_self, ← unchanged, flags_handle still]
    rfl
  · rw [Function.update_of_ne same]
    have passed : bindings.windows.current.handle ≠ other := Ne.symm same
    simp [flags, modifyWindow, Focus.modify, Focus.toList, List.find?_append, passed]

/-! ## The native state after each change

The native state of a session has its windows under their handles, each with the flags it is bound
with. -/

section

variable {session next : Session}

theorem native_addWindow {name : String} (added : session.addWindow name = .ok next)
    (border : Option ResolvedBorder) (handle : Handle) :
    (bindings.addWindow name border handle).native next =
      (bindings.native session).setFlags handle (some ⟨true, false⟩) := by
  cases Session.addWindow_eq_ok added
  simp only [native, Native.setFlags, flags_addWindow]

theorem native_setWindow {name : String} {after : Bindings}
    (moved : bindings.setWindow name = .ok after) (updated : session.setWindow name = .ok next) :
    after.native next = bindings.native session := by
  rcases Session.setWindow_eq_ok updated with ⟨windows, _, rfl⟩
  simp only [native, flags_setWindow moved]

theorem native_addColor {name : String} (added : session.addColor name = .ok next)
    (pair : ColorPair) : (bindings.addColor name pair).native next = bindings.native session := by
  cases Session.addColor_eq_ok added
  rfl

theorem native_setKeypad (distinct : bindings.handles.Nodup) (on : Bool) :
    (bindings.setKeypad on).native (session.setKeypad on) =
      (bindings.native session).after (.setKeypad bindings.handle on) () := by
  simp only [native, setKeypad, Native.after, Native.setFlags, flags_modifyWindow distinct,
    flags_handle distinct, Option.map_some]
  rfl

theorem native_setNoDelay (distinct : bindings.handles.Nodup) (on : Bool) :
    (bindings.setNoDelay on).native (session.setNoDelay on) =
      (bindings.native session).after (.setNoDelay bindings.handle on) () := by
  simp only [native, setNoDelay, Native.after, Native.setFlags, flags_modifyWindow distinct,
    flags_handle distinct, Option.map_some]
  rfl

end

end Bindings

namespace Machine

open Exchange NativeTerminal

variable {τ : Type} [Terminal τ] [NativeTerminal τ]

/-! ## Calls about windows that are there

A failure is harmless if it leaves the native state as it was and is not about a handle. A call that
is about no window has no handle to be wrong. -/

section

variable {host : Logged τ} {base : Native} {failed : Failure → Logged τ → Prop}

/-- What is left when a call failed on a window that is there: everything is as it was, the handle
was not the reason, and the window can be given back. -/
structure Survived (base : Native) (window : Handle) (failure : Failure) (stop : Logged τ) :
    Prop where
  same : native stop.terminal = base
  reason : failure ≠ .fault .invalidHandle
  removable : ∃ last notes,
    Terminal.perform (.destroyWindow window) stop.terminal = ⟨.ok (), last, notes⟩

theorem ends_call_about {called : Call} {window : Handle}
    {returned : called.Answer → Logged τ → Prop} (about : called.window? = some window)
    (same : native host.terminal = base) (there : base.flags window ≠ none)
    (answered : ∀ answer stop, native stop.terminal = base.after called answer →
      returned answer stop) :
    Ends (call called) host returned (Survived base window) := by
  refine ends_call (fun answer terminal notes log reply => ?_)
    (fun fault terminal notes log reply => ⟨?_, ?_, ?_⟩)
  · refine answered answer _ ?_
    rw [← same]
    exact native_answered reply
  · exact (native_denied reply).trans same
  · intro invalid
    rcases explains reply (Failure.fault.inj invalid) with ⟨other, otherAbout, absent⟩
    rw [about] at otherAbout
    cases otherAbout
    exact there (same ▸ absent)
  · exact destroyed about (same ▸ there) reply

def Harmless (base : Native) (failure : Failure) (stop : Logged τ) : Prop :=
  native stop.terminal = base ∧ failure ≠ .fault .invalidHandle

theorem harmless_of_general {called : Call} {fault : Fault} {terminal : τ}
    {notes log : List Log.Entry} (general : called.window? = none)
    (same : native host.terminal = base)
    (reply : Terminal.perform called host.terminal = ⟨.error fault, terminal, notes⟩) :
    Harmless base (.fault fault) ⟨terminal, log⟩ := by
  refine ⟨(native_denied reply).trans same, ?_⟩
  intro invalid
  rcases explains reply (Failure.fault.inj invalid) with ⟨window, about, _⟩
  rw [general] at about
  cases about

theorem ends_call_general {called : Call} {returned : called.Answer → Logged τ → Prop}
    (general : called.window? = none) (same : native host.terminal = base)
    (answered : ∀ answer stop, native stop.terminal = base.after called answer →
      returned answer stop) :
    Ends (call called) host returned (Harmless base) :=
  ends_call
    (fun answer _ _ _ reply => answered answer _ (same ▸ native_answered reply))
    (fun _ _ _ _ reply => harmless_of_general general same reply)

/-! ## Windows that are made

A window either is made and prepared, or it leaves no trace. Preparing it has no effect on other
windows. -/

theorem prepareWindow_native {window : Handle} (border : Option ResolvedBorder)
    (created : native host.terminal = base.setFlags window (some {})) :
    Ends (prepareWindow window border) host
      (fun _ stop => native stop.terminal = base.setFlags window (some ⟨true, false⟩))
      (fun failure stop => ∃ flags, Survived (base.setFlags window flags) window failure stop) := by
  have there : ∀ flags, (base.setFlags window (some flags)).flags window ≠ none := by simp
  simp only [prepareWindow, ends_bind]
  refine (ends_call_about rfl created (there _) fun _ stop same => ?_).mono (fun _ _ => id)
    (fun _ _ survived => ⟨_, survived⟩)
  simp only [Native.after, Native.flags_setFlags, Native.setFlags_setFlags, Option.map_some] at same
  refine (ends_call_about rfl same (there _) fun _ stop same => ?_).mono (fun _ _ => id)
    (fun _ _ survived => ⟨_, survived⟩)
  simp only [Native.after, Native.flags_setFlags, Native.setFlags_setFlags, Option.map_some] at same
  cases border with
  | none => exact same
  | some border =>
      exact (ends_call_about rfl same (there _) fun _ stop same => same).mono (fun _ _ => id)
        (fun _ _ survived => ⟨_, survived⟩)

/-- A window either is made and prepared, or it leaves no trace. -/
theorem createWindow_native {name : String} {position : Position} {size : Size}
    {border : Option ResolvedBorder} {returned : Handle → Logged τ → Prop}
    (same : native host.terminal = base)
    (answered : ∀ window stop, base.flags window = none →
      native stop.terminal = base.setFlags window (some ⟨true, false⟩) → returned window stop) :
    Ends (createWindow name position size border) host returned (Harmless base) := by
  simp only [createWindow, ends_bind, bind_pure_comp, ends_map, ends_tryCatch, ends_throw,
    ends_note]
  refine ends_call (fun window terminal notes log reply => ?_)
    (fun fault terminal notes log reply => ?_)
  · have unused : base.flags window = none := same ▸ flags_created reply
    have created : native terminal = base.setFlags window (some {}) :=
      same ▸ native_answered reply
    refine (prepareWindow_native border created).mono
      (fun _ stop prepared => answered window stop unused prepared)
      (fun failure stop => ?_)
    rintro ⟨flags, survived⟩
    -- the window is given back, and as its handle was not in use before, nothing is left of it
    rcases survived.removable with ⟨last, removedNotes, removed⟩
    refine ends_call (fun _ terminal _ _ reply => ⟨?_, survived.reason⟩)
      (fun fault terminal _ _ reply => ?_)
    · have emptied := native_answered reply
      rw [survived.same, Native.after, Native.setFlags_setFlags, ← unused,
        Native.setFlags_self] at emptied
      exact emptied
    · rw [removed] at reply
      cases reply
  · exact harmless_of_general rfl same reply

/-! ## Actions -/

variable {bindings : Bindings} {session next : Session}

theorem ends_call_current {called : Call} {returned : called.Answer → Logged τ → Prop}
    (distinct : bindings.handles.Nodup) (about : called.window? = some bindings.handle)
    (same : native host.terminal = bindings.native session)
    (answered : ∀ answer stop,
      native stop.terminal = (bindings.native session).after called answer →
        returned answer stop) :
    Ends (call called) host returned (Harmless (bindings.native session)) := by
  have there : (bindings.native session).flags bindings.handle ≠ none := by
    simp [Bindings.native, Bindings.flags_handle distinct]
  exact (ends_call_about about same there answered).mono (fun _ _ => id)
    (fun _ _ survived => ⟨survived.same, survived.reason⟩)

theorem draw_native {drawing : Drawing} {returned : Unit → Logged τ → Prop}
    (distinct : bindings.handles.Nodup) (same : native host.terminal = bindings.native session)
    (answered : ∀ stop, native stop.terminal = bindings.native session → returned () stop) :
    Ends (draw bindings.handle drawing) host returned (Harmless (bindings.native session)) := by
  cases drawing with
  | line text =>
      simp only [draw, ends_bind]
      exact ends_call_current distinct rfl same fun _ _ same =>
        ends_call_current distinct rfl same fun _ => answered
  | _ => exact ends_call_current distinct rfl same fun _ => answered

theorem readCurrent_native {returned : Input → Logged τ → Prop}
    (distinct : bindings.handles.Nodup) (same : native host.terminal = bindings.native session)
    (answered : ∀ input stop, native stop.terminal = bindings.native session →
      returned input stop) :
    Ends (readCurrent bindings) host returned (Harmless (bindings.native session)) := by
  simp only [readCurrent, ends_bind]
  refine ends_call_current distinct rfl same fun delivered stop same => ?_
  cases bindings.current.window.shape.resolve delivered bindings.keys with
  | none => exact ⟨same, by simp⟩
  | some input => exact answered input stop same

theorem allocateColor_native {name : String} {foreground background : Color}
    {returned : ColorPair → Logged τ → Prop} (same : native host.terminal = base)
    (answered : ∀ pair stop, native stop.terminal = base → returned pair stop) :
    Ends (allocateColor bindings name foreground background) host returned (Harmless base) := by
  simp only [allocateColor]
  split
  all_goals simp only [ends_bind, bind_pure_comp, ends_map, ends_note]
  · exact ends_call_general rfl same fun _ _ same =>
      ends_call_general rfl same fun pair _ same => answered pair _ same
  · exact ends_call_general rfl same fun pair _ same => answered pair _ same

omit [Terminal τ] [NativeTerminal τ] in
theorem ends_resolveBorders (border : Option Border)
    {returned : Option ResolvedBorder → Logged τ → Prop}
    (answered : ∀ resolved, returned resolved host)
    (refused : ∀ refusal, failed (.refusal refusal) host) :
    Ends (border.mapM fun border => accept (bindings.resolveBorder border)) host returned
      failed := by
  cases border with
  | none => exact answered none
  | some border =>
      rw [Option.mapM_some, ends_map, ends_accept]
      cases bindings.resolveBorder border with
      | error refusal => exact refused refusal
      | ok resolved => exact answered (some resolved)

theorem setWindow_native {name : String} (distinct : bindings.handles.Nodup)
    (same : native host.terminal = bindings.native session)
    (updated : session.setWindow name = .ok next) :
    Ends (accept (bindings.setWindow name)) host
      (fun after stop => after.handles.Nodup ∧ native stop.terminal = after.native next)
      (Harmless (bindings.native session)) := by
  rw [ends_accept]
  cases moved : bindings.setWindow name with
  | error refusal => exact ⟨same, by simp⟩
  | ok after =>
      refine ⟨?_, same.trans (Bindings.native_setWindow moved updated).symm⟩
      rw [Bindings.handles_setWindow moved]
      exact distinct

/-- An action changes the native state as it changes the bindings, or not at all. -/
theorem perform_native {action : Action} (distinct : bindings.handles.Nodup)
    (same : native host.terminal = bindings.native session)
    (updated : action.update session = .ok next) :
    Ends (perform session bindings action) host
      (fun answer stop => answer.2.handles.Nodup ∧
        native stop.terminal = answer.2.native next)
      (Harmless (bindings.native session)) := by
  cases action with
  | addWindow name position size border =>
      simp only [perform, ends_bind, bind_pure_comp, ends_map]
      refine ends_resolveBorders border (fun resolved => ?_) (fun _ => ⟨same, by simp⟩)
      refine createWindow_native same fun window stop unused kept => ⟨?_, ?_⟩
      · have absent := (Bindings.flags_eq_none_iff window).mp unused
        exact List.nodup_cons.mpr ⟨absent, distinct⟩
      · rw [kept, Bindings.native_addWindow updated]
  | setWindow name =>
      simp only [perform, bind_pure_comp, ends_map]
      exact setWindow_native distinct same updated
  | unsetWindow =>
      simp only [perform, Bindings.unsetWindow, bind_pure_comp, ends_map]
      exact setWindow_native distinct same updated
  | addColor name foreground background =>
      simp only [perform, bind_pure_comp, ends_map]
      exact allocateColor_native same fun pair _ kept =>
        ⟨distinct, kept.trans (Bindings.native_addColor updated pair).symm⟩
  | changeAttribute operation look =>
      cases updated
      simp only [perform, ends_bind, ends_accept, bind_pure_comp, ends_map]
      cases bindings.resolveAttribute look with
      | error refusal => exact ⟨same, by simp⟩
      | ok resolved => exact ends_call_current distinct rfl same fun _ _ kept => ⟨distinct, kept⟩
  | draw drawing =>
      cases updated
      simp only [perform, bind_pure_comp, ends_map]
      exact draw_native distinct same fun _ kept => ⟨distinct, kept⟩
  | setKeypad on =>
      cases updated
      simp only [perform, bind_pure_comp, ends_map]
      refine ends_call_current distinct rfl same fun _ _ kept => ⟨?_, ?_⟩
      · rw [Bindings.setKeypad, Bindings.handles_modifyWindow]
        exact distinct
      · exact kept.trans (Bindings.native_setKeypad distinct on).symm
  | setNoDelay on =>
      cases updated
      simp only [perform, bind_pure_comp, ends_map]
      refine ends_call_current distinct rfl same fun _ _ kept => ⟨?_, ?_⟩
      · rw [Bindings.setNoDelay, Bindings.handles_modifyWindow]
        exact distinct
      · exact kept.trans (Bindings.native_setNoDelay distinct on).symm
  | setEcho | setCbreak | setCursor =>
      cases updated
      simp only [perform, bind_pure_comp, ends_map]
      exact ends_call_general rfl same fun _ _ kept => ⟨distinct, kept⟩
  | getInput | readAs shape =>
      cases updated
      simp only [perform, bind_pure_comp, ends_map]
      exact readCurrent_native distinct same fun _ _ kept => ⟨distinct, kept⟩
  | require requirement =>
      cases updated
      exact ⟨distinct, same⟩
  | clear | erase | refresh | getPosition | getSize | setSize =>
      cases updated
      simp only [perform, bind_pure_comp, ends_map]
      exact ends_call_current distinct rfl same fun _ _ kept => ⟨distinct, kept⟩

end

/-! ## Commands

A session starts with the screen as its only window, whatever there was before. -/

/-- While a session runs, its windows have different handles and the native state is the one that
fits the bindings. -/
inductive Agrees (native : Native) : Phase → Option Bindings → Prop
  | inactive : Agrees native .inactive none
  | active {session : Session} {bindings : Bindings} (distinct : bindings.handles.Nodup)
      (same : native = bindings.native session) : Agrees native (.active session) (some bindings)

omit [Terminal τ] [NativeTerminal τ] in
theorem Agrees.bound {native : Native} {phase : Phase} {bindings : Option Bindings}
    {session : Session} (agrees : Agrees native phase bindings)
    (running : phase = .active session) :
    ∃ bound, bindings = some bound ∧ bound.handles.Nodup ∧ native = bound.native session := by
  cases agrees with
  | inactive => cases running
  | active distinct same =>
      cases running
      exact ⟨_, rfl, distinct, same⟩

theorem openSession_native (host : Logged τ) (options : SessionOptions) :
    Ends openSession host
      (fun bindings stop => bindings.handles.Nodup ∧
        native stop.terminal = bindings.native (.fresh options))
      (fun failure _ => failure ≠ .fault .invalidHandle) := by
  simp only [openSession, ends_bind, ends_note, ends_pure]
  refine (ends_call_general rfl rfl fun screen stop same => ?_).mono (fun _ _ => id)
    (fun _ _ harmless => harmless.2)
  refine (ends_call_general rfl same fun _ stop same => ?_).mono (fun _ _ => id)
    (fun _ _ harmless => harmless.2)
  refine (ends_call_about rfl same ?_ fun _ stop same => ?_).mono (fun _ _ => id)
    (fun _ _ survived => survived.reason)
  · simp [Native.after]
  refine (ends_call_about rfl same ?_ fun _ stop same => ?_).mono (fun _ _ => id)
    (fun _ _ survived => survived.reason)
  · simp [Native.after, Native.setFlags]
  refine (ends_call_general rfl same fun keys stop same => ⟨?_, ?_⟩).mono (fun _ _ => id)
    (fun _ _ harmless => harmless.2)
  · simp [Bindings.handles, Bindings.fresh]
  · simp [same, Native.after, Native.setFlags, Bindings.native, Bindings.flags_fresh, Session.fresh]

theorem dispatch_native {phase next : Phase} {bindings : Option Bindings} {command : Command}
    {host : Logged τ} (agrees : Agrees (native host.terminal) phase bindings)
    (leads : command.Leads phase next) :
    Ends (dispatch phase bindings command) host
      (fun answer stop => Agrees (native stop.terminal) next answer.2)
      (fun failure stop => Agrees (native stop.terminal) phase bindings ∧
        failure ≠ .fault .invalidHandle) := by
  cases leads with
  | init options =>
      cases agrees with
      | inactive =>
          simp only [dispatch, bind_pure_comp, ends_map]
          exact (openSession_native host options).mono
            (fun _ _ opened => .active opened.1 opened.2) (fun _ _ reason => ⟨.inactive, reason⟩)
  | deinit session =>
      simp only [dispatch, closeSession, ends_bind, bind_pure_comp, ends_map, ends_note]
      refine (ends_call_general rfl rfl fun _ _ _ => .inactive).mono (fun _ _ => id) ?_
      intro failure stop harmless
      exact ⟨harmless.1 ▸ agrees, harmless.2⟩
  | act met updated =>
      cases agrees with
      | active distinct same =>
          simp only [dispatch, bind_pure_comp, ends_map]
          exact (perform_native distinct same updated).mono
            (fun _ _ kept => .active kept.1 kept.2)
            (fun _ _ harmless => ⟨.active distinct harmless.1, harmless.2⟩)

theorem readBound_native {bindings : Bindings} {session : Session} {shape : ReadShape}
    {host : Logged τ} (distinct : bindings.handles.Nodup)
    (same : native host.terminal = bindings.native session) :
    Ends (readBound bindings shape) host
      (fun _ stop => native stop.terminal = bindings.native session)
      (Harmless (bindings.native session)) := by
  simp only [readBound, ends_bind]
  refine ends_call_current distinct rfl same fun delivered stop same => ?_
  cases shape.decode delivered bindings.keys with
  | none => exact ⟨same, by simp⟩
  | some value => exact same

/-! ## Every machine there can be -/

theorem execute_native {machine : Machine τ}
    (agrees : Agrees (native machine.terminal) machine.phase machine.bindings)
    (command : Command) :
    Agrees (native (machine.execute command).2.terminal) (machine.execute command).2.phase
        (machine.execute command).2.bindings ∧
      (machine.execute command).1 ≠ .error (.fault .invalidHandle) := by
  refine execute_rule machine command (fun refusal _ => ?_) (fun next log leads => ?_)
  · exact ⟨agrees, by simp⟩
  · refine Ends.mono (dispatch_native agrees leads) (fun answer host kept => ?_)
      (fun failure host kept => ?_)
    · exact ⟨kept, by simp⟩
    · exact ⟨kept.1, fun invalid => kept.2 (Except.error.inj invalid)⟩

theorem read_native {machine : Machine τ}
    (agrees : Agrees (native machine.terminal) machine.phase machine.bindings)
    (shape : ReadShape) :
    Agrees (native (machine.read shape).2.terminal) (machine.read shape).2.phase
        (machine.read shape).2.bindings ∧
      (machine.read shape).1 ≠ .error (.fault .invalidHandle) := by
  refine read_rule machine shape (fun refusal => ?_) (fun session bindings running bound => ?_)
  · exact ⟨agrees, by simp⟩
  · rcases agrees.bound running with ⟨bindings', bound', distinct, same⟩
    rw [bound] at bound'
    cases bound'
    have after : ∀ stop : Logged τ, native stop.terminal = bindings.native session →
        Agrees (native stop.terminal) machine.phase machine.bindings := by
      intro stop kept
      rw [running, bound]
      exact .active distinct kept
    refine (readBound_native distinct same).mono (fun value host kept => ?_)
      (fun failure host kept => ?_)
    · exact ⟨after host kept, by simp⟩
    · exact ⟨after host kept.1, fun invalid => kept.2 (Except.error.inj invalid)⟩

/-- Whatever happens to the terminal between commands, as long as its native state stays. -/
theorem Reachable.agrees {world : τ → τ → Prop}
    (quiet : ∀ before after, world before after → native after = native before)
    {machine : Machine τ} (reached : machine.Reachable world) :
    Agrees (native machine.terminal) machine.phase machine.bindings := by
  induction reached with
  | new terminal => exact .inactive
  | execute reached command induction => exact (execute_native induction command).1
  | read reached shape induction => exact (read_native induction shape).1
  | disturb reached change induction =>
      have same := quiet _ _ change
      exact same ▸ induction

end Machine

end TerminalSession
