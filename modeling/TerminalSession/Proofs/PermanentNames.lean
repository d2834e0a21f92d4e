import TerminalSession.Proofs.CompletedActions
import TerminalSession.Proofs.History
import TerminalSession.Proofs.LockStep

/-! # Names that cannot be given twice

Windows and colors are only ever added, and what is new is listed first. Where no name can be given
twice, a name keeps standing for what it was first given to: nothing that is listed before it has
that name. This holds as long as the session lasts, whatever is refused or fails meanwhile. -/

namespace TerminalSession

/-- Of members that all have different names, the one of a name is found among more members too. -/
theorem find?_of_suffix {α : Type} {name : α → String} {earlier later : List α}
    (grown : earlier <:+ later) (distinct : (later.map name).Nodup) {wanted : String} {found : α}
    (present : earlier.find? (fun member => name member = wanted) = some found) :
    later.find? (fun member => name member = wanted) = some found := by
  obtain ⟨added, rfl⟩ := grown
  have member := List.mem_of_find?_eq_some present
  have named : name found = wanted := by simpa using List.find?_some present
  rw [List.map_append, List.nodup_append] at distinct
  have passed : added.find? (fun member => name member = wanted) = none := by
    rw [List.find?_eq_none]
    intro other new same
    have equal : name other = name found := (of_decide_eq_true same).trans named.symm
    exact distinct.2.2 _ (List.mem_map_of_mem new) _ (List.mem_map_of_mem member) equal
  rw [List.find?_append, passed, present]
  rfl

theorem Focus.find?_of_ofList? {α : Type} {wanted : α → Bool} {members : List α} {focus : Focus α}
    (selected : ofList? wanted members = some focus) :
    members.find? wanted = some focus.current := by
  induction members generalizing focus with
  | nil => cases selected
  | cons first rest induction =>
      rw [ofList?] at selected
      split at selected
      · rename_i found
        cases selected
        exact List.find?_cons_of_pos found
      · rename_i passed
        obtain ⟨inner, innerSelected, rfl⟩ := Option.map_eq_some_iff.mp selected
        have found := induction innerSelected
        rw [List.find?_cons_of_neg passed, found]
        rfl

namespace History

theorem mem_of_newest {name : String} {names : List String} {number : Nat}
    (found : newest name names = some number) : name ∈ names := by
  induction names with
  | nil => cases found
  | cons first older induction =>
      rw [newest] at found
      split at found
      · rename_i same
        exact same ▸ List.mem_cons_self
      · exact List.mem_cons_of_mem _ (induction found)

theorem newest_of_suffix {name : String} {earlier later : List String} {number : Nat}
    (grown : earlier <:+ later) (distinct : later.Nodup)
    (found : newest name earlier = some number) : newest name later = some number := by
  obtain ⟨added, rfl⟩ := grown
  induction added with
  | nil => exact found
  | cons first rest induction =>
      have parts := List.nodup_cons.mp distinct
      have other : first ≠ name := by
        intro same
        exact parts.1 (same ▸ List.mem_append_right rest (mem_of_newest found))
      rw [List.cons_append, newest, if_neg other]
      exact induction parts.2

theorem windowNames_suffix (later earlier : List Command) :
    windowNames earlier <:+ windowNames (later ++ earlier) := by
  rw [windowNames, windowNames, List.filterMap_append, List.append_assoc]
  exact List.suffix_append _ _

end History

namespace Session

structure Unambiguous (session : Session) : Prop where
  unique : session.options.names = .unique
  windows : (session.windows.toList.map (·.name)).Nodup
  colors : session.colors.Nodup

variable {session next : Session} {name : String}

theorem unambiguous_fresh {options : SessionOptions} (unique : options.names = .unique) :
    (fresh options).Unambiguous :=
  ⟨unique, by simp [fresh], .nil⟩

theorem not_mem_of_addWindow (unique : session.options.names = .unique)
    (added : session.addWindow name = .ok next) :
    name ∉ session.windows.toList.map (·.name) := by
  intro member
  rcases List.mem_map.mp member with ⟨window, present, named⟩
  have taken : session.hasWindow name = true :=
    List.any_eq_true.mpr ⟨window, present, decide_eq_true named⟩
  simp [addWindow, unique, taken] at added

theorem not_mem_of_addColor (unique : session.options.names = .unique)
    (added : session.addColor name = .ok next) : name ∉ session.colors := by
  intro member
  have taken : session.hasColor name = true := List.contains_iff_mem.mpr member
  simp [addColor, unique, taken] at added

theorem Unambiguous.setWindow (unambiguous : session.Unambiguous)
    (moved : session.setWindow name = .ok next) : next.Unambiguous := by
  rcases setWindow_eq_ok moved with ⟨windows, selected, rfl⟩
  refine ⟨unambiguous.unique, ?_, unambiguous.colors⟩
  rw [Focus.toList_select? selected]
  exact unambiguous.windows

theorem Unambiguous.modify (unambiguous : session.Unambiguous) {change : Window → Window}
    (named : ∀ window, (change window).name = window.name) :
    Unambiguous { session with windows := session.windows.modify change } := by
  refine ⟨unambiguous.unique, ?_, unambiguous.colors⟩
  rw [Focus.map_toList_modify session.windows named]
  exact unambiguous.windows

theorem Unambiguous.update (unambiguous : session.Unambiguous) {action : Action}
    (updated : action.update session = .ok next) : next.Unambiguous := by
  have unique := unambiguous.unique
  cases action with
  | addWindow name position size border =>
      have new := not_mem_of_addWindow unique updated
      cases addWindow_eq_ok updated
      exact ⟨unique, List.nodup_cons.mpr ⟨new, unambiguous.windows⟩, unambiguous.colors⟩
  | addColor name foreground background =>
      have new := not_mem_of_addColor unique updated
      cases addColor_eq_ok updated
      exact ⟨unique, unambiguous.windows, List.nodup_cons.mpr ⟨new, unambiguous.colors⟩⟩
  | setWindow name => exact unambiguous.setWindow updated
  | unsetWindow => exact unambiguous.setWindow updated
  | setKeypad on =>
      cases updated
      exact unambiguous.modify fun _ => rfl
  | setNoDelay on =>
      cases updated
      exact unambiguous.modify fun _ => rfl
  | setEcho | setCbreak =>
      cases updated
      exact ⟨unique, unambiguous.windows, unambiguous.colors⟩
  | _ =>
      cases updated
      exact unambiguous

theorem setWindow_of_newest {number : Nat}
    (found : History.newest name (session.windows.toList.map (·.name)) = some number) :
    ∃ next, session.setWindow name = .ok next ∧ next.windows.older.length = number := by
  rcases List.mem_map.mp (History.mem_of_newest found) with ⟨window, member, named⟩
  have selected : ∃ windows, session.windows.select? (·.name = name) = some windows :=
    Focus.exists_ofList? member (decide_eq_true named)
  rcases selected with ⟨windows, selected⟩
  have same := History.newest_of_ofList? selected
  rw [found] at same
  refine ⟨{ session with windows }, ?_, (Option.some.inj same).symm⟩
  simp only [Session.setWindow, selected]

end Session

namespace Phase

def Unambiguous (phase : Phase) : Prop :=
  ∀ session, phase = .active session → session.options.names = .unique → session.Unambiguous

end Phase

theorem Action.options_update {action : Action} {session next : Session}
    (updated : action.update session = .ok next) : next.options = session.options := by
  cases action with
  | addWindow name position size border =>
      cases Session.addWindow_eq_ok updated
      rfl
  | addColor name foreground background =>
      cases Session.addColor_eq_ok updated
      rfl
  | setWindow name =>
      rcases Session.setWindow_eq_ok updated with ⟨windows, _, rfl⟩
      rfl
  | unsetWindow =>
      rcases Session.setWindow_eq_ok updated with ⟨windows, _, rfl⟩
      rfl
  | _ =>
      cases updated
      rfl

theorem Command.Leads.unambiguous {command : Command} {phase next : Phase}
    (leads : command.Leads phase next) (unambiguous : phase.Unambiguous) : next.Unambiguous := by
  cases leads with
  | init options =>
      intro session started unique
      cases started
      exact Session.unambiguous_fresh unique
  | deinit session =>
      intro session started
      cases started
  | @act action session next met updated =>
      intro _ same unique
      cases same
      have before := Action.options_update updated ▸ unique
      exact (unambiguous session rfl before).update updated

theorem Phase.Unambiguous.follow {phase last : Phase} {commands : List Command}
    (unambiguous : phase.Unambiguous) (accepted : phase.follow commands = .ok last) :
    last.Unambiguous := by
  induction commands generalizing phase with
  | nil =>
      cases accepted
      exact unambiguous
  | cons command rest induction =>
      rcases (Phase.follow_cons_eq_ok_iff _ _ _ _).mp accepted with ⟨next, applied, followed⟩
      have leads := (Command.apply_eq_ok_iff _ _ _).mp applied
      exact induction (leads.unambiguous unambiguous) followed

/-! ## Bindings while a session lasts

A command that does not end the session only adds to its bindings. Where names are unique a color
then keeps its pair, and a name its native window. -/

namespace Bindings

structure Grows (bindings later : Bindings) : Prop where
  colors : bindings.colors <:+ later.colors
  records : bindings.records <:+ later.records

theorem Grows.refl (bindings : Bindings) : bindings.Grows bindings :=
  ⟨List.suffix_refl _, List.suffix_refl _⟩

theorem Grows.trans {bindings middle later : Bindings} (first : bindings.Grows middle)
    (second : middle.Grows later) : bindings.Grows later :=
  ⟨first.colors.trans second.colors, first.records.trans second.records⟩

theorem grows_of_completes {bindings later : Bindings} {action : Action} {made : List Asked}
    (completed : Completes bindings action made later) : bindings.Grows later := by
  cases completed with
  | addWindow found created drawn => exact ⟨List.suffix_refl _, List.suffix_cons _ _⟩
  | addColor => exact ⟨List.suffix_cons _ _, List.suffix_refl _⟩
  | changeAttribute => exact .refl bindings
  | other noWindow noColor noLook colors records =>
      exact ⟨colors ▸ List.suffix_refl _, records ▸ List.suffix_refl _⟩

section

variable {bindings later : Bindings} {session : Session}

theorem records_names (consistent : bindings.isConsistentWith session = true) :
    bindings.records.map (·.name) = session.windows.toList.map (·.name) := by
  rw [← (isConsistentWith_iff.mp consistent).1, Focus.toList_map, records, List.map_map,
    List.map_map]
  rfl

theorem record_of_setWindow {name : String} {chosen : Bindings}
    (moved : bindings.setWindow name = .ok chosen) :
    bindings.records.find? (fun record => record.name = name) = some chosen.current.record := by
  unfold setWindow at moved
  split at moved
  · rename_i windows selected
    cases moved
    rw [records, List.find?_map]
    exact congrArg (Option.map _) (Focus.find?_of_ofList? selected)
  · cases moved

theorem setWindow_of_record {name : String} {record : WindowRecord}
    (found : bindings.records.find? (fun record => record.name = name) = some record) :
    ∃ chosen, bindings.setWindow name = .ok chosen ∧ chosen.current.record = record := by
  have listed := List.mem_of_find?_eq_some found
  have named : record.name = name := by simpa using List.find?_some found
  rcases List.mem_map.mp listed with ⟨bound, member, rfl⟩
  have selected : ∃ windows, bindings.windows.select? (·.window.name = name) = some windows :=
    Focus.exists_ofList? member (decide_eq_true named)
  rcases selected with ⟨windows, selected⟩
  have moved : bindings.setWindow name = .ok { bindings with windows } := by
    simp only [setWindow, selected]
  refine ⟨_, moved, ?_⟩
  rw [record_of_setWindow moved] at found
  exact Option.some.inj found

/-- Where names are unique, a color keeps its pair when the bindings grow. -/
theorem Grows.colorPair (grown : bindings.Grows later)
    (consistent : later.isConsistentWith session = true) (unambiguous : session.Unambiguous)
    {name : String} {pair : ColorPair} (bound : bindings.colorPair name = some pair) :
    later.colorPair name = some pair := by
  have distinct : (later.colors.map Prod.fst).Nodup := by
    rw [(isConsistentWith_iff.mp consistent).2]
    exact unambiguous.colors
  rw [Bindings.colorPair, lookup_eq_find?] at bound ⊢
  rcases Option.map_eq_some_iff.mp bound with ⟨entry, found, rfl⟩
  rw [find?_of_suffix grown.colors distinct found]
  rfl

theorem Grows.setWindow (grown : bindings.Grows later)
    (consistent : later.isConsistentWith session = true) (unambiguous : session.Unambiguous)
    {name : String} {chosen : Bindings} (moved : bindings.setWindow name = .ok chosen) :
    ∃ again, later.setWindow name = .ok again ∧ again.current.record = chosen.current.record := by
  have distinct : (later.records.map (·.name)).Nodup := by
    rw [records_names consistent]
    exact unambiguous.windows
  exact setWindow_of_record
    (find?_of_suffix grown.records distinct (record_of_setWindow moved))

end

end Bindings

namespace Machine

variable {τ : Type} [Terminal τ] {world : τ → τ → Prop} {start machine : Machine τ}

/-- The machines that come up while the session of `start` lasts, when commands and reads follow one
another in any order. A session whose end fails lasts on. -/
inductive Lasts (world : τ → τ → Prop) (start : Machine τ) : Machine τ → Prop
  | refl : Lasts world start start
  | execute {machine : Machine τ} (lasts : Lasts world start machine) (command : Command)
      (running : (machine.execute command).2.phase.isActive = true) :
      Lasts world start (machine.execute command).2
  | read {machine : Machine τ} (lasts : Lasts world start machine) (shape : ReadShape) :
      Lasts world start (machine.read shape).2
  | disturb {machine : Machine τ} (lasts : Lasts world start machine) {terminal : τ}
      (change : world machine.terminal terminal) :
      Lasts world start { machine with host := { machine.host with terminal } }

theorem Lasts.reachable (lasts : start.Lasts world machine) (reached : start.Reachable world) :
    machine.Reachable world := by
  induction lasts with
  | refl => exact reached
  | execute lasts command running induction => exact .execute induction command
  | read lasts shape induction => exact .read induction shape
  | disturb lasts change induction => exact .disturb induction change

theorem read_keeps (machine : Machine τ) (shape : ReadShape) :
    (machine.read shape).2.phase = machine.phase ∧
      (machine.read shape).2.bindings = machine.bindings := by
  apply read_rule machine shape (motive := fun result =>
    result.2.phase = machine.phase ∧ result.2.bindings = machine.bindings)
  · intro refusal
    exact ⟨rfl, rfl⟩
  · intro session bindings _ _
    apply (ends_true (readBound bindings shape) machine.host).mono
    · intros
      exact ⟨rfl, rfl⟩
    · intros
      exact ⟨rfl, rfl⟩

theorem Reachable.unambiguous (reached : machine.Reachable world) :
    machine.phase.Unambiguous := by
  induction reached with
  | new terminal =>
      intro session started
      cases started
  | @execute machine reached command induction =>
      rcases execute_cases reached.inStep command with
        ⟨refusal, _, equal⟩ | ⟨next, outcome, host, bindings, accepted, _, _, equal⟩ |
          ⟨next, fault, host, _, equal⟩
      · rw [equal]
        exact induction
      · rw [equal]
        exact ((Command.apply_eq_ok_iff _ _ _).mp accepted).unambiguous induction
      · rw [equal]
        exact induction
  | read reached shape induction =>
      rw [(read_keeps _ shape).1]
      exact induction
  | disturb reached change induction => exact induction

/-- A command that does not end the session only adds to its bindings. -/
theorem execute_grows {bindings : Bindings} (inStep : InStep machine.phase machine.bindings)
    (bound : machine.bindings = some bindings) (command : Command) :
    (machine.execute command).2.phase.isActive = true →
      ∃ later, (machine.execute command).2.bindings = some later ∧ bindings.Grows later := by
  have still : ∃ later, machine.bindings = some later ∧ bindings.Grows later :=
    ⟨bindings, bound, .refl bindings⟩
  apply execute_rule machine command (motive := fun result =>
    result.2.phase.isActive = true →
      ∃ later, result.2.bindings = some later ∧ bindings.Grows later)
  · intro _ _ _
    exact still
  · intro next log leads
    generalize machine.phase = phase at inStep leads
    cases leads with
    | init options =>
        rw [bound] at inStep
        cases inStep
    | deinit session =>
        apply (ends_true (dispatch (.active session) machine.bindings .deinit) _).mono
        · intro _ _ _ running
          cases running
        · intro _ _ _ _
          exact still
    | @act action session next met updated =>
        simp only [bound, dispatch, bind_pure_comp, ends_map]
        apply (perform_completes session bindings action).mono
        · intro result _ done _
          rcases done with ⟨made, _, completed⟩
          exact ⟨_, rfl, Bindings.grows_of_completes completed⟩
        · intro _ _ _ _
          exact ⟨bindings, rfl, .refl bindings⟩

theorem Lasts.session {session : Session} (lasts : start.Lasts world machine)
    (reached : start.Reachable world) (running : start.phase = .active session) :
    ∃ later, machine.phase = .active later ∧ later.options = session.options := by
  induction lasts with
  | refl => exact ⟨session, running, rfl⟩
  | @execute machine lasts command still induction =>
      rcases induction with ⟨middle, runs, same⟩
      rcases execute_cases (lasts.reachable reached).inStep command with
        ⟨refusal, _, equal⟩ | ⟨next, outcome, host, bindings, accepted, _, _, equal⟩ |
          ⟨next, fault, host, _, equal⟩
      · rw [equal]
        exact ⟨middle, runs, same⟩
      · rw [equal] at still ⊢
        have leads := (Command.apply_eq_ok_iff _ _ _).mp accepted
        rw [runs] at leads
        cases leads with
        | deinit => cases still
        | act met updated => exact ⟨_, rfl, (Action.options_update updated).trans same⟩
      · rw [equal]
        exact ⟨middle, runs, same⟩
  | read lasts shape induction =>
      rw [(read_keeps _ shape).1]
      exact induction
  | disturb lasts change induction => exact induction

theorem Lasts.grows {bindings : Bindings} (lasts : start.Lasts world machine)
    (reached : start.Reachable world) (bound : start.bindings = some bindings) :
    ∃ later, machine.bindings = some later ∧ bindings.Grows later := by
  induction lasts with
  | refl => exact ⟨bindings, bound, .refl bindings⟩
  | execute lasts command running induction =>
      rcases induction with ⟨middle, boundMiddle, grown⟩
      rcases execute_grows (lasts.reachable reached).inStep boundMiddle command running with
        ⟨later, boundLater, more⟩
      exact ⟨later, boundLater, grown.trans more⟩
  | read lasts shape induction =>
      rw [(read_keeps _ shape).2]
      exact induction
  | disturb lasts change induction => exact induction

/-- Where names must be unique they are, in every state that accepted commands lead to, and from
then on a name selects the same window, counted by its age. On a terminal, the native window and the
pair that a name stands for stay until the session ends, whatever is refused or fails meanwhile. -/
theorem names_are_permanent :
    (∀ (options : SessionOptions) (commands : List Command) (phase : Phase),
      options.names = .unique → .deinit ∉ commands →
      Phase.follow (.active (.fresh options)) commands = .ok phase →
      ∃ session, phase = .active session ∧ session.Unambiguous ∧
        ∀ (more : List Command) (last : Phase), .deinit ∉ more → phase.follow more = .ok last →
          ∃ later, last = .active later ∧ later.Unambiguous ∧
            ∀ name chosen, session.setWindow name = .ok chosen →
              ∃ again, later.setWindow name = .ok again ∧
                again.windows.older.length = chosen.windows.older.length) ∧
    (∀ {τ : Type} [Terminal τ] (world : τ → τ → Prop) (machine later : Machine τ)
      (session : Session),
      machine.Reachable world → machine.phase = .active session →
      session.options.names = .unique → machine.Lasts world later →
      ∃ bindings bound, machine.bindings = some bindings ∧ later.bindings = some bound ∧
        (∀ name, session.hasColor name = true →
          ∃ pair, bindings.colorPair name = some pair ∧ bound.colorPair name = some pair) ∧
        (∀ name chosen, bindings.setWindow name = .ok chosen →
          ∃ again, bound.setWindow name = .ok again ∧ again.handle = chosen.handle)) := by
  constructor
  · intro options commands phase unique stays accepted
    have started : (Phase.active (.fresh options)).Unambiguous := by
      intro session same _
      cases same
      exact Session.unambiguous_fresh unique
    rcases History.recounts_of_follow accepted stays with ⟨session, rfl, recounts⟩
    have first := started.follow accepted session rfl (recounts.options ▸ unique)
    refine ⟨session, rfl, first, ?_⟩
    intro more last staysMore followed
    have whole : Phase.follow (.active (.fresh options)) (commands ++ more) = .ok last :=
      (Phase.follow_append_eq_ok_iff _ _ _ _).mpr ⟨_, accepted, followed⟩
    have staysWhole : .deinit ∉ commands ++ more := by
      rw [List.mem_append]
      exact not_or.mpr ⟨stays, staysMore⟩
    rcases History.recounts_of_follow whole staysWhole with ⟨later, rfl, recountsLater⟩
    have second := started.follow whole later rfl (recountsLater.options ▸ unique)
    refine ⟨later, rfl, second, ?_⟩
    intro name chosen moved
    rcases Session.setWindow_eq_ok moved with ⟨windows, selected, rfl⟩
    have found := History.newest_of_ofList? selected
    have grown := History.windowNames_suffix more.reverse commands.reverse
    rw [← List.reverse_append, ← recounts.names, ← recountsLater.names] at grown
    exact Session.setWindow_of_newest (History.newest_of_suffix grown second.windows found)
  · intro τ _ world machine later session reached running unique lasts
    rcases lasts.session reached running with ⟨last, runs, same⟩
    have reachedLater := lasts.reachable reached
    have unambiguous := reachedLater.unambiguous last runs (same ▸ unique)
    rcases reached.inStep.bound running with ⟨bindings, bound, consistent⟩
    rcases reachedLater.inStep.bound runs with ⟨final, boundFinal, consistentFinal⟩
    rcases lasts.grows reached bound with ⟨_, boundAgain, grown⟩
    cases boundFinal.symm.trans boundAgain
    refine ⟨bindings, final, bound, boundFinal, ?_, ?_⟩
    · intro name registered
      rcases Bindings.colorPair_of_hasColor consistent registered with ⟨pair, stands⟩
      exact ⟨pair, stands, grown.colorPair consistentFinal unambiguous stands⟩
    · intro name chosen moved
      rcases grown.setWindow consistentFinal unambiguous moved with ⟨again, movedAgain, equal⟩
      exact ⟨again, movedAgain, congrArg (·.handle) equal⟩

/-- A name that is taken is refused and the terminal fails to give a pair, and still the window and
the color stand for what they stood for. -/
theorem names_are_permanent_after_failure :
    let options : SessionOptions := { names := .unique }
    let window : Command := .act (.addWindow "w" .origin ⟨3, 3⟩ none)
    let color (name : String) : Command := .act (.addColor name .red .black)
    let start := (execute (.new ((default : Recorder).failAfter .allocatePair 1)) (.init options)).2
    let machine := ((start.execute window).2.execute (color "c")).2
    let refused := machine.execute window
    let failed := refused.2.execute (color "d")
    refused.1.isOk = false ∧ failed.1 = .error (.fault (.device .injected)) ∧
      (∃ session, Phase.follow (.active (.fresh options)) [window, color "c"] =
        .ok (.active session) ∧ session.Unambiguous) ∧
      ∃ bindings bound, machine.bindings = some bindings ∧ failed.2.bindings = some bound ∧
        bindings.colorPair "c" = some 1 ∧ bound.colorPair "c" = some 1 ∧
        ∃ chosen again, bindings.setWindow "w" = .ok chosen ∧ bound.setWindow "w" = .ok again ∧
          again.handle = chosen.handle := by
  intro options window color start machine refused failed
  have reached : machine.Reachable Eq := .execute (.execute (.execute (.new _) _) _) _
  have lasts : machine.Lasts Eq failed.2 := .execute (.execute .refl window rfl) (color "d") rfl
  have accepted : ∃ session, Phase.follow (.active (.fresh options)) [window, color "c"] =
      .ok (.active session) := ⟨_, rfl⟩
  rcases accepted with ⟨session, accepted⟩
  rcases names_are_permanent.1 options [window, color "c"] _ rfl (by decide) accepted with
    ⟨_, same, unambiguous, _⟩
  cases same
  rcases names_are_permanent.2 Eq machine failed.2 _ reached rfl rfl lasts with
    ⟨bindings, bound, stands, standsLater, colors, windows⟩
  rcases colors "c" rfl with ⟨pair, first, second⟩
  cases stands
  cases first
  rcases windows "w" _ rfl with ⟨again, moved, handle⟩
  exact ⟨rfl, rfl, ⟨session, accepted, unambiguous⟩, _, bound, rfl, standsLater, rfl, second, _,
    again, rfl, moved, handle⟩

end Machine

end TerminalSession
