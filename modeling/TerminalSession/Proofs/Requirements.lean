import TerminalSession.Proofs.History

/-! # Requirements decide

What a command needs is written down twice: as requirements that are checked first, and in the
transitions of a session, which refuse on their own what does not fit. The requirements are the
whole truth. A command is accepted exactly if they all hold, the first that does not hold is the
reason why it is refused, and once they are checked no transition has anything left to refuse. -/

namespace TerminalSession

namespace Requirement

variable {requirement : Requirement} {phase : Phase}

theorem holds_iff : requirement.holds phase = true ↔ requirement.check phase = .ok () := by
  rw [holds]
  cases requirement.check phase with
  | ok passed => exact iff_of_true rfl rfl
  | error refusal => exact iff_of_false Bool.false_ne_true (by simp)

def FirstUnmet (requirements : List Requirement) (phase : Phase) (refusal : Refusal) : Prop :=
  ∃ earlier requirement later, requirements = earlier ++ requirement :: later ∧
    (∀ met ∈ earlier, met.holds phase = true) ∧ requirement.check phase = .error refusal

theorem firstUnmet_cons_of_error {refusal : Refusal}
    (failed : requirement.check phase = .error refusal) (rest : List Requirement)
    (reason : Refusal) : FirstUnmet (requirement :: rest) phase reason ↔ reason = refusal := by
  constructor
  · intro unmet
    rcases unmet with ⟨earlier, other, later, split, held, why⟩
    cases earlier with
    | nil =>
        cases split
        exact (Except.error.inj (failed.symm.trans why)).symm
    | cons first earlier =>
        cases split
        have passed := holds_iff.mp (held requirement List.mem_cons_self)
        cases failed.symm.trans passed
  · intro same
    subst same
    exact ⟨[], requirement, rest, rfl, fun _ none => (List.not_mem_nil none).elim, failed⟩

theorem firstUnmet_cons_of_ok (passed : requirement.check phase = .ok ())
    (rest : List Requirement) (reason : Refusal) :
    FirstUnmet (requirement :: rest) phase reason ↔ FirstUnmet rest phase reason := by
  constructor
  · intro unmet
    rcases unmet with ⟨earlier, other, later, split, held, why⟩
    cases earlier with
    | nil =>
        cases split
        cases passed.symm.trans why
    | cons first earlier =>
        cases split
        exact ⟨earlier, other, later, rfl,
          fun met member => held met (List.mem_cons_of_mem _ member), why⟩
  · intro unmet
    rcases unmet with ⟨earlier, other, later, split, held, why⟩
    subst split
    refine ⟨requirement :: earlier, other, later, rfl, ?_, why⟩
    intro met member
    rcases List.mem_cons.mp member with same | before
    · subst same
      exact holds_iff.mpr passed
    · exact held met before

theorem checkAll_cons (requirement : Requirement) (rest : List Requirement) (phase : Phase) :
    checkAll (requirement :: rest) phase =
      requirement.check phase >>= fun _ => checkAll rest phase := rfl

/-- Requirements that are checked in order fail for the reason of the first that does not hold. -/
theorem checkAll_eq_error_iff (requirements : List Requirement) (phase : Phase)
    (refusal : Refusal) :
    checkAll requirements phase = .error refusal ↔ FirstUnmet requirements phase refusal := by
  induction requirements with
  | nil =>
      constructor
      · intro failed
        cases failed
      · intro unmet
        rcases unmet with ⟨earlier, requirement, later, split, _, _⟩
        cases List.append_ne_nil_of_right_ne_nil earlier (List.cons_ne_nil _ _) split.symm
  | cons requirement rest induction =>
      rw [checkAll_cons]
      cases checked : requirement.check phase with
      | ok passed => exact induction.trans (firstUnmet_cons_of_ok checked rest refusal).symm
      | error reason =>
          rw [firstUnmet_cons_of_error checked]
          exact ⟨fun failed => (Except.error.inj failed).symm, fun same => congrArg _ same.symm⟩

end Requirement

/-! ## Transitions refuse nothing that was checked -/

namespace Session

variable {session : Session} {name : String}

theorem addWindow_of_free
    (free : (Requirement.windowNameFree name).checkActive session = .ok ()) :
    ∃ next, session.addWindow name = .ok next := by
  simp only [Requirement.checkActive] at free
  unfold addWindow
  split
  · rename_i taken
    rw [if_pos taken] at free
    cases free
  · exact ⟨_, rfl⟩

theorem addColor_of_free
    (free : (Requirement.colorNameFree name).checkActive session = .ok ()) :
    ∃ next, session.addColor name = .ok next := by
  simp only [Requirement.checkActive] at free
  unfold addColor
  split
  · rename_i taken
    rw [if_pos taken] at free
    cases free
  · exact ⟨_, rfl⟩

theorem setWindow_of_exists
    (there : (Requirement.windowExists name).checkActive session = .ok ()) :
    ∃ next, session.setWindow name = .ok next := by
  simp only [Requirement.checkActive] at there
  split at there
  · rename_i found
    rcases List.any_eq_true.mp found with ⟨window, member, named⟩
    have selectable : ∃ windows, Focus.ofList? (·.name = name) session.windows.toList =
        some windows := Focus.exists_ofList? member named
    rcases selectable with ⟨windows, selected⟩
    rw [setWindow, Focus.select?, selected]
    exact ⟨_, rfl⟩
  · cases there

end Session

theorem Action.update_of_met {action : Action} {session : Session} (met : action.Met session) :
    ∃ next, action.update session = .ok next := by
  cases action with
  | addWindow name position size border =>
      exact Session.addWindow_of_free (met _ List.mem_cons_self)
  | setWindow name => exact Session.setWindow_of_exists (met _ List.mem_cons_self)
  | unsetWindow => exact Session.setWindow_of_exists (met _ List.mem_cons_self)
  | addColor name foreground background =>
      exact Session.addColor_of_free (met _ List.mem_cons_self)
  | _ => exact ⟨_, rfl⟩

namespace Command

/-- What a command does to the phase, without asking whether it may. -/
def transition (command : Command) (phase : Phase) : Except Refusal Phase :=
  match command with
  | init options => phase.init options
  | deinit => phase.deinit
  | act action => phase.mapActive action.update

theorem apply_eq (command : Command) (phase : Phase) :
    command.apply phase = command.check phase >>= fun _ => command.transition phase := rfl

theorem transition_of_check {command : Command} {phase : Phase}
    (checked : command.check phase = .ok ()) : ∃ next, command.transition phase = .ok next := by
  cases command with
  | init options =>
      cases phase with
      | inactive => exact ⟨_, rfl⟩
      | active session => cases checked
  | deinit =>
      cases phase with
      | inactive => cases checked
      | active session => exact ⟨_, rfl⟩
  | act action =>
      cases phase with
      | inactive => cases checked
      | active session =>
          have met := (check_act_active action session).mp checked
          rcases Action.update_of_met met with ⟨next, updated⟩
          exact ⟨.active next, by rw [transition, Phase.mapActive, updated, Except.map]⟩

theorem apply_of_check {command : Command} {phase : Phase}
    (checked : command.check phase = .ok ()) :
    ∃ next, command.transition phase = .ok next ∧ command.apply phase = .ok next := by
  rcases transition_of_check checked with ⟨next, changed⟩
  exact ⟨next, changed, by rw [apply_eq, checked, ← changed]; rfl⟩

theorem apply_of_refused {command : Command} {phase : Phase} {refusal : Refusal}
    (refused : command.check phase = .error refusal) : command.apply phase = .error refusal := by
  rw [apply_eq, refused]
  rfl

theorem apply_isOk_iff (command : Command) (phase : Phase) :
    (command.apply phase).isOk = true ↔
      ∀ requirement ∈ command.requirements, requirement.holds phase = true := by
  simp only [Requirement.holds_iff]
  rw [← Requirement.checkAll_eq_ok_iff, ← check]
  cases checked : command.check phase with
  | ok passed =>
      rcases apply_of_check checked with ⟨next, _, applied⟩
      rw [applied]
      exact iff_of_true rfl rfl
  | error refusal =>
      rw [apply_of_refused checked]
      exact iff_of_false Bool.false_ne_true (by simp)

theorem apply_eq_error_iff (command : Command) (phase : Phase) (refusal : Refusal) :
    command.apply phase = .error refusal ↔
      Requirement.FirstUnmet command.requirements phase refusal := by
  rw [← Requirement.checkAll_eq_error_iff, ← check]
  cases checked : command.check phase with
  | ok passed =>
      rcases apply_of_check checked with ⟨next, _, applied⟩
      rw [applied]
      exact iff_of_false (by simp) (by simp)
  | error reason =>
      rw [apply_of_refused checked, Except.error.injEq, Except.error.injEq]

theorem apply_addWindow_of_taken {session : Session} {name : String}
    (taken : (Requirement.windowNameFree name).holds (.active session) = false)
    (position : Position) (size : Size) (border : Option Border) :
    (act (.addWindow name position size border)).apply (.active session) =
      .error (.duplicateWindow name) := by
  rw [apply_eq_error_iff]
  refine ⟨[.sessionActive], .windowNameFree name, border.toList.flatMap Border.requirements,
    rfl, ?_, ?_⟩
  · intro met member
    rw [List.mem_singleton.mp member]
    rfl
  · simp only [Requirement.holds, Requirement.check_active, Requirement.checkActive] at taken ⊢
    split
    · rfl
    · rename_i free
      rw [if_neg free] at taken
      cases taken

theorem apply_require_isOk_iff (requirement : Requirement) (phase : Phase) :
    ((act (.require requirement)).apply phase).isOk = true ↔
      ∃ session, phase = .active session ∧ requirement.holds phase = true := by
  rw [apply_isOk_iff, requirements, Action.requirements, List.forall_mem_cons,
    List.forall_mem_singleton]
  cases phase with
  | inactive =>
      constructor
      · intro held
        cases held.1
      · intro running
        rcases running with ⟨session, same, _⟩
        cases same
  | active session =>
      constructor
      · intro held
        exact ⟨session, rfl, held.2⟩
      · intro running
        rcases running with ⟨_, _, held⟩
        exact ⟨rfl, held⟩

/-- Whether a command is accepted, and why not if it is not, can be read from its requirements.
Without a session every command but the one that starts one is refused as not active, whatever names
are in it; a name that is taken comes before a border color that is not there. To require something
is accepted where there is a session in which it holds. -/
theorem requirements_decide (command : Command) (phase : Phase) :
    ((command.apply phase).isOk = true ↔
        ∀ requirement ∈ command.requirements, requirement.holds phase = true) ∧
      (∀ refusal, command.apply phase = .error refusal ↔
        Requirement.FirstUnmet command.requirements phase refusal) ∧
      (command.check phase = .ok () →
        ∃ next, command.transition phase = .ok next ∧ command.apply phase = .ok next) ∧
      deinit.apply .inactive = .error .notActive ∧
      (∀ action, (act action).apply .inactive = .error .notActive) ∧
      (∀ session name position size border,
        (Requirement.windowNameFree name).holds (.active session) = false →
          (act (.addWindow name position size border)).apply (.active session) =
            .error (.duplicateWindow name)) ∧
      ∀ requirement, ((act (.require requirement)).apply phase).isOk = true ↔
        ∃ session, phase = .active session ∧ requirement.holds phase = true := by
  refine ⟨apply_isOk_iff command phase, apply_eq_error_iff command phase, apply_of_check, rfl,
    fun _ => rfl, ?_, fun requirement => apply_require_isOk_iff requirement phase⟩
  intro session name position size border taken
  exact apply_addWindow_of_taken taken position size border

/-- Neither the name nor the color of the border is right; the name is what is reported. -/
theorem taken_name_comes_before_missing_color :
    let session := Session.fresh ⟨.unique⟩
    let border : Border := ⟨.single, some ⟨"alert"⟩⟩
    (Requirement.windowNameFree "default").holds (.active session) = false ∧
      (Requirement.colorExists "alert").holds (.active session) = false ∧
      (act (.addWindow "default" .origin ⟨1, 1⟩ (some border))).apply (.active session) =
        .error (.duplicateWindow "default") := by
  intro session border
  have taken : (Requirement.windowNameFree "default").holds (.active session) = false := by decide
  have decided := requirements_decide .deinit (.active session)
  exact ⟨taken, by decide,
    decided.2.2.2.2.2.1 session "default" .origin ⟨1, 1⟩ (some border) taken⟩

end Command

end TerminalSession
