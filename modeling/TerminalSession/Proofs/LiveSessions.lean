import TerminalSession.Proofs.PermanentNames
import TerminalSession.Proofs.ReadAgreement
import TerminalSession.Proofs.Requirements
import TerminalSession.Proofs.SessionEnd

/-! # What a live session refuses

A live session refuses what does not fit it, and that is all it refuses. It never finds that there
is no session, and never that a command returned something else than it should have, however often
it refused something or its terminal failed before. A color that it has named once fits from then
on. -/

namespace TerminalSession

/-- Nothing that was asked for is at fault here, but the session itself. -/
inductive Refusal.Internal : Refusal → Prop
  | notActive : Internal .notActive
  | unexpectedOutcome (command expected : String) : Internal (.unexpectedOutcome command expected)

namespace Requirement

variable {requirement : Requirement} {session : Session} {refusal : Refusal}

theorem not_internal_of_checkActive (unmet : requirement.checkActive session = .error refusal) :
    ¬ refusal.Internal := by
  intro internal
  cases requirement with
  | sessionActive => cases unmet
  | sessionInactive =>
      cases unmet
      cases internal
  | colorExists name =>
      simp only [checkActive, Session.color] at unmet
      split at unmet <;> cases unmet
      cases internal
  | _ =>
      simp only [checkActive] at unmet
      split at unmet <;> cases unmet
      cases internal

end Requirement

theorem Session.color_eq_ok_iff {session : Session} {name : String}
    {registered : RegisteredColor} :
    session.color name = .ok registered ↔ registered = ⟨name⟩ ∧ name ∈ session.colors := by
  rw [color, hasColor]
  by_cases member : name ∈ session.colors
  · simp [member, eq_comm]
  · simp [member]

variable {τ : Type} [Terminal τ]

theorem Machine.refused_of_executed {machine : Machine τ} {command : Command} {refusal : Refusal}
    (inStep : InStep machine.phase machine.bindings)
    (refused : (machine.execute command).1 = .error (.refusal refusal)) :
    command.apply machine.phase = .error refusal := by
  rcases execute_cases inStep command with
    ⟨reason, why, equal⟩ | ⟨_, _, _, _, _, _, _, equal⟩ | ⟨_, _, _, _, equal⟩
  · rw [equal] at refused
    cases refused
    exact why
  · rw [equal] at refused
    cases refused
  · rw [equal] at refused
    cases refused

namespace Live

open Machine

variable {live : Live τ} {session : Session} {refusal : Refusal}

inductive Refuses (live : Live τ) (refusal : Refusal) : Prop
  | session (refused : live.session = .error refusal)
  | shape (refused : live.shape = .error refusal)
  | color (name : String) (refused : live.color name = .error refusal)
  | perform (action : Action) (refused : (live.perform action).1 = .error (.refusal refusal))
  | addColor (name : String) (foreground background : Color)
      (refused : (live.addColor name foreground background).1 = .error (.refusal refusal))
  | getPosition (refused : live.getPosition.1 = .error (.refusal refusal))
  | getSize (refused : live.getSize.1 = .error (.refusal refusal))
  | read (shape : ReadShape) (refused : (live.read shape).1 = .error (.refusal refusal))
  | readAny (refused : live.readAny.1 = .error (.refusal refusal))
  | deinit (refused : live.deinit.1 = .error (.refusal refusal))

omit [Terminal τ] in
theorem session_of_running (running : live.machine.phase = .active session) :
    live.session = .ok session := by
  rw [Live.session, running]
  rfl

omit [Terminal τ] in
theorem color_of_running (running : live.machine.phase = .active session) (name : String) :
    live.color name = session.color name := by
  rw [color, session_of_running running]
  rfl

theorem unmet_of_perform (inStep : InStep live.machine.phase live.machine.bindings)
    (running : live.machine.phase = .active session) {action : Action}
    (refused : (live.perform action).1 = .error (.refusal refusal)) :
    ∃ requirement ∈ action.requirements, requirement.checkActive session = .error refusal := by
  have applied := refused_of_executed inStep refused
  rcases (Command.apply_eq_error_iff _ _ _).mp applied with
    ⟨earlier, requirement, later, split, _, unmet⟩
  rw [running, Requirement.check_active] at unmet
  have member : requirement ∈ (Command.act action).requirements := by
    rw [split]
    exact List.mem_append_right earlier List.mem_cons_self
  rcases List.mem_cons.mp member with rfl | listed
  · cases unmet
  · exact ⟨requirement, listed, unmet⟩

omit [Terminal τ] in
theorem error_of_map {α β : Type} {result : Except Failure α} {change : α → β}
    {failure : Failure} (failed : result.map change = .error failure) : result = .error failure := by
  cases result with
  | ok value => cases failed
  | error given =>
      cases failed
      rfl

theorem refused_perform (inStep : InStep live.machine.phase live.machine.bindings)
    (action : Action) (refused : (live.act action).1 = .error (.refusal refusal)) :
    (live.perform action).1 = .error (.refusal refusal) := by
  change (live.machine.execute (.act action)).1 = _
  by_cases typed : ∃ shape, action = .readAs shape
  · rcases typed with ⟨shape, rfl⟩
    exact ((readAs_readsAlike inStep shape).failure _).mp (error_of_map refused)
  · rw [act_eq inStep fun shape same => typed ⟨shape, same⟩] at refused
    exact error_of_map refused

end Live

namespace Lived

variable {world : τ → τ → Prop} {start : τ} {live : Live τ} {session : Session}
  {refusal : Refusal}

theorem running (lived : Lived world start live) :
    ∃ session, live.machine.phase = .active session := by
  have active := lived.active
  cases running : live.machine.phase with
  | inactive =>
      rw [running] at active
      cases active
  | active session => exact ⟨session, rfl⟩

/-- Whatever is refused, some requirement does not hold in the session. -/
theorem unmet_of_refuses (lived : Lived world start live)
    (running : live.machine.phase = .active session) (refuses : live.Refuses refusal) :
    ∃ requirement, Requirement.checkActive requirement session = .error refusal := by
  have inStep := lived.reachable.inStep
  have performed : ∀ action, (live.perform action).1 = .error (.refusal refusal) →
      ∃ requirement, Requirement.checkActive requirement session = .error refusal := by
    intro action refused
    rcases Live.unmet_of_perform inStep running refused with ⟨requirement, _, unmet⟩
    exact ⟨requirement, unmet⟩
  have acted : ∀ action, (live.act action).1 = .error (.refusal refusal) →
      ∃ requirement, Requirement.checkActive requirement session = .error refusal :=
    fun action refused => performed action (Live.refused_perform inStep action refused)
  cases refuses with
  | session refused =>
      rw [Live.session_of_running running] at refused
      cases refused
  | shape refused =>
      rw [Live.shape, Live.session_of_running running] at refused
      cases refused
  | color name refused =>
      rw [Live.color_of_running running] at refused
      exact ⟨.colorExists name, by rw [Requirement.checkActive, refused]; rfl⟩
  | perform action refused => exact performed action refused
  | addColor name foreground background refused =>
      exact acted (.addColor name foreground background) (congrArg (Except.map _) refused)
  | getPosition refused => exact acted .getPosition (congrArg (Except.map _) refused)
  | getSize refused => exact acted .getSize (congrArg (Except.map _) refused)
  | read shape refused => exact acted (.readAs shape) (congrArg (Except.map _) refused)
  | readAny refused => exact acted .getInput (congrArg (Except.map _) refused)
  | deinit refused =>
      rcases live.deinit_asks lived.active with ⟨closing, ended, _⟩
      rw [refused] at ended
      cases ended

end Lived

/-! ## Colors that were named -/

namespace Live

open Machine

/-! Steps are taken in a session one after the other. Between two of them the terminal may change as
far as `world` allows. -/

inductive Lasts (world : τ → τ → Prop) (live : Live τ) : Live τ → Prop
  | refl : Lasts world live live
  | act {later : Live τ} (lasts : Lasts world live later) (action : Action) :
      Lasts world live (later.act action).2
  | disturb {later : Live τ} (lasts : Lasts world live later) {terminal : τ}
      (change : world later.machine.terminal terminal) :
      Lasts world live
        ⟨{ later.machine with host := { later.machine.host with terminal } }⟩

/-- The session knows the color under its name and refuses no use of it. A window with a border in
that color can be refused for its own name only. -/
structure Honors (live : Live τ) (registered : RegisteredColor) : Prop where
  known : live.color registered.name = .ok registered
  look : ∀ operation refusal,
    (live.perform (.changeAttribute operation (.color registered))).1 ≠ .error (.refusal refusal)
  border : ∀ name position size glyphs refusal,
    (live.perform (.addWindow name position size (some ⟨glyphs, some registered⟩))).1 =
      .error (.refusal refusal) → refusal = .duplicateWindow name

variable {world : τ → τ → Prop} {start : τ} {live later : Live τ} {session : Session}
  {name : String} {registered : RegisteredColor}

theorem Lasts.lived (lasts : live.Lasts world later) (lived : Lived world start live) :
    Lived world start later := by
  induction lasts with
  | refl => exact lived
  | act lasts action induction => exact induction.act action
  | disturb lasts change induction => exact induction.disturb change

theorem Lasts.machine (lasts : live.Lasts world later) (lived : Lived world start live) :
    live.machine.Lasts world later.machine := by
  induction lasts with
  | refl => exact .refl
  | @act later lasts action induction =>
      have before := lasts.lived lived
      have after := before.act action
      rcases act_cases before.reachable.inStep action with same | ⟨shape, same⟩
      · have active := after.active
        rw [same] at active ⊢
        exact induction.execute (.act action) active
      · rw [same]
        exact induction.read shape
  | disturb lasts change induction => exact induction.disturb change

theorem Lasts.color (lasts : live.Lasts world later) (lived : Lived world start live)
    (known : live.color name = .ok registered) : later.color name = .ok registered := by
  rcases lived.running with ⟨session, running⟩
  rcases (lasts.lived lived).running with ⟨last, runs⟩
  rcases lived.reachable.inStep.bound running with ⟨bindings, bound, consistent⟩
  rcases (lasts.lived lived).reachable.inStep.bound runs with ⟨final, boundLast, consistentLast⟩
  rcases (lasts.machine lived).grows lived.reachable bound with ⟨_, boundAgain, grown⟩
  cases boundLast.symm.trans boundAgain
  have colors : session.colors <:+ last.colors := by
    rw [← (Bindings.isConsistentWith_iff.mp consistent).2,
      ← (Bindings.isConsistentWith_iff.mp consistentLast).2]
    exact grown.colors.map Prod.fst
  rw [color_of_running running, Session.color_eq_ok_iff] at known
  rw [color_of_running runs, Session.color_eq_ok_iff]
  exact ⟨known.1, colors.subset known.2⟩

/-- What adding a color returned is found in the session after it. -/
theorem color_of_addColor (inStep : InStep live.machine.phase live.machine.bindings)
    {foreground background : Color}
    (added : (live.addColor name foreground background).1 = .ok registered) :
    (live.addColor name foreground background).2.color name = .ok registered := by
  rw [addColor_eq inStep] at added ⊢
  rcases done : live.machine.execute (.act (.addColor name foreground background)) with
    ⟨result, after⟩
  rw [done] at added
  cases result with
  | error failure => cases added
  | ok outcome =>
      cases added
      exact color_added (accepted_of_executed inStep done).1

theorem honors_of_color (lived : Lived world start live)
    (known : live.color name = .ok registered) : live.Honors registered := by
  rcases lived.running with ⟨session, running⟩
  have found := known
  rw [color_of_running running] at found
  have same : registered = ⟨name⟩ := (Session.color_eq_ok_iff.mp found).1
  cases same
  have exist : (Requirement.colorExists name).checkActive session = .ok () := by
    rw [Requirement.checkActive, found]
    rfl
  refine ⟨known, ?_, ?_⟩
  · intro operation refusal refused
    rcases unmet_of_perform lived.reachable.inStep running refused with
      ⟨requirement, member, unmet⟩
    cases List.mem_singleton.mp member
    cases exist.symm.trans unmet
  · intro name position size glyphs refusal refused
    rcases unmet_of_perform lived.reachable.inStep running refused with
      ⟨requirement, member, unmet⟩
    rcases List.mem_cons.mp member with rfl | framed
    · simp only [Requirement.checkActive] at unmet
      split at unmet
      · cases unmet
        rfl
      · cases unmet
    · cases List.mem_singleton.mp framed
      cases exist.symm.trans unmet

theorem Lasts.honors (lasts : live.Lasts world later) (lived : Lived world start live)
    (known : live.color name = .ok registered) : later.Honors registered :=
  honors_of_color (lasts.lived lived) (lasts.color lived known)

end Live

/-- However a live session came about and whatever was refused or failed in it, it has its state.
What it refuses is never that there is no session or that a command returned something else than it
should have. A color that was added is returned, and every color it returned is honored as long as
the session lasts. -/
theorem live_session_refuses_nothing_internal {world : τ → τ → Prop} {start : τ}
    {live : Live τ} (lived : Lived world start live) :
    (∃ session, live.session = .ok session) ∧
      (∀ refusal, live.Refuses refusal → ¬ refusal.Internal) ∧
      (∀ name foreground background,
        (live.addColor name foreground background).1 =
          (live.perform (.addColor name foreground background)).1.map fun _ => ⟨name⟩) ∧
      (∀ name registered, live.color name = .ok registered →
        ∀ later, live.Lasts world later → later.Honors registered) ∧
      ∀ name foreground background registered,
        (live.addColor name foreground background).1 = .ok registered →
          ∀ later, (live.addColor name foreground background).2.Lasts world later →
            later.Honors registered := by
  have inStep := lived.reachable.inStep
  rcases lived.running with ⟨session, running⟩
  refine ⟨⟨session, Live.session_of_running running⟩, ?_, ?_, ?_, ?_⟩
  · intro refusal refuses
    rcases lived.unmet_of_refuses running refuses with ⟨requirement, unmet⟩
    exact Requirement.not_internal_of_checkActive unmet
  · intro name foreground background
    rw [Live.addColor_eq inStep]
    rfl
  · intro name registered known later lasts
    exact lasts.honors lived known
  · intro name foreground background registered added later lasts
    have after : Lived world start (live.addColor name foreground background).2 :=
      lived.act (.addColor name foreground background)
    exact lasts.honors after (Live.color_of_addColor inStep added)

/-- The terminal fails to start its color support, and the second attempt to add the color works.
From then on it can frame windows. -/
theorem color_is_honored_after_failure :
    let start := Recorder.failAfter default .startColor 0
    let opened : Live Recorder := ⟨((Machine.new start).execute (.init {})).2⟩
    let failed := opened.addColor "alert" .red .black
    let added := failed.2.addColor "alert" .red .black
    let later := (added.2.act (.addWindow "w" .origin ⟨3, 3⟩ none)).2
    failed.1 = .error (.fault (.device .injected)) ∧ added.1 = .ok ⟨"alert"⟩ ∧
      (∃ session, failed.2.session = .ok session) ∧ ¬ failed.2.Refuses .notActive ∧
      later.Honors ⟨"alert"⟩ := by
  intro start opened failed added later
  have begun : Lived Eq start opened := .init {} rfl
  have lived : Lived Eq start failed.2 := begun.act (.addColor "alert" .red .black)
  have settled := live_session_refuses_nothing_internal lived
  have lasts : added.2.Lasts Eq later := .act .refl (.addWindow "w" .origin ⟨3, 3⟩ none)
  refine ⟨rfl, rfl, settled.1, fun refuses => settled.2.1 _ refuses .notActive, ?_⟩
  exact settled.2.2.2.2 "alert" .red .black ⟨"alert"⟩ rfl later lasts

end TerminalSession
