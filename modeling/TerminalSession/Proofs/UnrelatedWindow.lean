import TerminalSession.Proofs.Transition

/-! # A window that nothing refers to

Commands find windows by their names, or they concern the current one. So a window can be added
whose name nothing mentions: what was accepted is still accepted, and the session stays the same in
all but that window, until it ends and takes the window with it. -/

namespace TerminalSession

namespace Focus

variable {α : Type} {member : α} {count : Nat} {plain richer : Focus α}

/-! One list is the other with one member more, which is not in focus. Moving the focus passes it
by, unless that is what is wanted. -/

inductive Gains (member : α) (count : Nat) : Focus α → Focus α → Prop
  | newer (front : List α) {back older : List α} {current : α}
      (place : (back ++ current :: older).length = count) :
      Gains member count ⟨front ++ back, current, older⟩ ⟨front ++ member :: back, current, older⟩
  | older {newer front back : List α} {current : α} (place : back.length = count) :
      Gains member count ⟨newer, current, front ++ back⟩ ⟨newer, current, front ++ member :: back⟩

theorem gains_push (focus : Focus α) (member : α) :
    Gains member focus.toList.length focus (focus.push member) :=
  .newer [] rfl

namespace Gains

theorem current (gains : Gains member count plain richer) : richer.current = plain.current := by
  cases gains with
  | newer front place => rfl
  | older place => rfl

theorem members (gains : Gains member count plain richer) :
    ∃ newer older, older.length = count ∧ plain.toList = newer ++ older ∧
      richer.toList = newer ++ member :: older ∧
      richer.index = if plain.index < newer.length then plain.index else plain.index + 1 := by
  cases gains with
  | @newer front back older current place =>
      refine ⟨front, back ++ current :: older, place, ?_, ?_, ?_⟩
      · simp [toList]
      · simp [toList]
      · rw [if_neg (by simp [index])]
        simp [index]
        omega
  | @older newer front back current place =>
      refine ⟨newer ++ current :: front, back, place, ?_, ?_, ?_⟩
      · simp [toList]
      · simp [toList]
      · simp [index]

theorem push (gains : Gains member count plain richer) (other : α) :
    Gains member count (plain.push other) (richer.push other) := by
  cases gains with
  | newer front place => exact .newer (other :: front) place
  | older place => exact .older place

theorem modify (gains : Gains member count plain richer) (change : α → α) :
    Gains member count (plain.modify change) (richer.modify change) := by
  cases gains with
  | newer front place =>
      apply Gains.newer front
      simpa using place
  | older place => exact .older place

theorem of_ofList? {wanted : α → Bool} (unwanted : wanted member = false) {newer older : List α}
    {found : Focus α} (finds : ofList? wanted (newer ++ older) = some found) :
    ∃ other, ofList? wanted (newer ++ member :: older) = some other ∧
      Gains member older.length found other := by
  induction newer generalizing found with
  | nil =>
      rw [List.nil_append] at finds
      refine ⟨found.push member, ?_, ?_⟩
      · rw [List.nil_append, ofList?, unwanted, finds]
        rfl
      · rw [← toList_ofList? finds]
        exact gains_push found member
  | cons first rest induction =>
      rw [List.cons_append, ofList?] at finds ⊢
      cases isWanted : wanted first with
      | true =>
          rw [isWanted] at finds
          cases finds
          exact ⟨_, rfl, .older rfl⟩
      | false =>
          rw [isWanted] at finds
          rcases Option.map_eq_some_iff.mp finds with ⟨inner, innerFinds, rfl⟩
          rcases induction innerFinds with ⟨other, otherFinds, gains⟩
          refine ⟨other.push first, ?_, gains.push first⟩
          rw [otherFinds]
          rfl

theorem select? (gains : Gains member count plain richer) {wanted : α → Bool}
    (unwanted : wanted member = false) {moved : Focus α}
    (selected : plain.select? wanted = some moved) :
    ∃ other, richer.select? wanted = some other ∧ Gains member count moved other := by
  rcases gains.members with ⟨newer, older, rfl, plainList, richerList, _⟩
  rw [Focus.select?, plainList] at selected
  rw [Focus.select?, richerList]
  exact of_ofList? unwanted selected

theorem any_toList (gains : Gains member count plain richer) {wanted : α → Bool}
    (unwanted : wanted member = false) : richer.toList.any wanted = plain.toList.any wanted := by
  rcases gains.members with ⟨newer, older, _, plainList, richerList, _⟩
  rw [plainList, richerList]
  simp [unwanted]

end Gains

end Focus

/-! ## Mentioning a window

An action requires nothing of a window that it does not mention, except of the first one. -/

def Requirement.window? : Requirement → Option String
  | windowExists name | windowNameFree name | currentWindow name => some name
  | _ => none

def Command.window? : Command → Option String
  | act (.addWindow name _ _ _) => some name
  | act (.setWindow name) => some name
  | act (.require requirement) => requirement.window?
  | _ => none

theorem Action.window?_ne_of_mem {action : Action} {name : String}
    (unmentioned : (Command.act action).window? ≠ some name) (ordinary : name ≠ Window.defaultName)
    {requirement : Requirement} (required : requirement ∈ action.requirements) :
    requirement.window? ≠ some name := by
  cases action with
  | addWindow added position size border =>
      rcases List.mem_cons.mp required with rfl | colored
      · exact unmentioned
      · rcases List.mem_flatMap.mp colored with ⟨chosen, _, needed⟩
        rcases List.mem_map.mp needed with ⟨color, _, rfl⟩
        simp [Requirement.window?]
  | setWindow selected =>
      cases List.mem_singleton.mp required
      exact unmentioned
  | unsetWindow =>
      cases List.mem_singleton.mp required
      simpa [Requirement.window?] using Ne.symm ordinary
  | addColor added foreground background =>
      cases List.mem_singleton.mp required
      simp [Requirement.window?]
  | changeAttribute operation look =>
      cases look with
      | color color =>
          cases List.mem_singleton.mp required
          simp [Requirement.window?]
      | _ => cases required
  | readAs shape =>
      cases List.mem_singleton.mp required
      simp [Requirement.window?]
  | require insisted =>
      cases List.mem_singleton.mp required
      exact unmentioned
  | _ => cases required

namespace Session

/-! ## Sessions that differ in one window

The flags of the window are those that every window starts with. -/

structure Gains (name : String) (count : Nat) (plain richer : Session) : Prop where
  cbreak : richer.cbreak = plain.cbreak
  echo : richer.echo = plain.echo
  colors : richer.colors = plain.colors
  options : richer.options = plain.options
  windows : plain.windows.Gains { name } count richer.windows

variable {name : String} {count : Nat} {plain richer next : Session}

theorem gains_addWindow {session : Session} (unused : session.hasWindow name = false) :
    ∃ richer, session.addWindow name = .ok richer ∧
      session.Gains name session.windows.toList.length richer := by
  refine ⟨{ session with windows := session.windows.push { name } }, ?_, ?_⟩
  · simp [addWindow, unused]
  · exact ⟨rfl, rfl, rfl, rfl, Focus.gains_push _ _⟩

namespace Gains

theorem currentWindow (gains : plain.Gains name count richer) :
    richer.currentWindow = plain.currentWindow := gains.windows.current

theorem hasWindow (gains : plain.Gains name count richer) {other : String}
    (different : name ≠ other) : richer.hasWindow other = plain.hasWindow other :=
  gains.windows.any_toList (decide_eq_false different)

theorem checkActive (gains : plain.Gains name count richer) {requirement : Requirement}
    (unmentioned : requirement.window? ≠ some name) :
    requirement.checkActive richer = requirement.checkActive plain := by
  have different : ∀ other, requirement.window? = some other → name ≠ other := by
    intro other mentioned same
    exact unmentioned (same ▸ mentioned)
  cases requirement with
  | windowExists other => simp [Requirement.checkActive, gains.hasWindow (different other rfl)]
  | windowNameFree other =>
      simp [Requirement.checkActive, gains.options, gains.hasWindow (different other rfl)]
  | currentWindow other => simp [Requirement.checkActive, gains.currentWindow]
  | colorExists wanted => simp [Requirement.checkActive, color, hasColor, gains.colors]
  | colorNameFree wanted => simp [Requirement.checkActive, hasColor, gains.colors, gains.options]
  | inputMode shape =>
      rw [Requirement.checkActive, Requirement.checkActive, Session.shape, gains.currentWindow]
      rfl
  | sessionActive => rfl
  | sessionInactive => rfl

theorem setWindow (gains : plain.Gains name count richer) {other : String}
    (different : name ≠ other) (moved : plain.setWindow other = .ok next) :
    ∃ richerNext, richer.setWindow other = .ok richerNext ∧ next.Gains name count richerNext := by
  rcases setWindow_eq_ok moved with ⟨windows, selected, rfl⟩
  have unwanted : (fun window : Window => decide (window.name = other)) { name } = false :=
    decide_eq_false different
  rcases gains.windows.select? unwanted selected with ⟨richerWindows, richerSelected, both⟩
  refine ⟨{ richer with windows := richerWindows }, ?_, { gains with windows := both }⟩
  rw [Session.setWindow, richerSelected]

theorem update (gains : plain.Gains name count richer) (ordinary : name ≠ Window.defaultName)
    {action : Action} (unmentioned : (Command.act action).window? ≠ some name)
    (updated : action.update plain = .ok next) :
    ∃ richerNext, action.update richer = .ok richerNext ∧ next.Gains name count richerNext := by
  cases action with
  | addWindow other position size border =>
      have different : name ≠ other := fun same => unmentioned (same ▸ rfl)
      have allowed := updated
      rw [Action.update, Session.addWindow, ← gains.hasWindow different, ← gains.options] at allowed
      split at allowed
      · cases allowed
      · rename_i free
        cases Session.addWindow_eq_ok updated
        refine ⟨{ richer with windows := richer.windows.push { name := other } }, ?_, ?_⟩
        · rw [Action.update, Session.addWindow, if_neg free]
        · exact { gains with windows := gains.windows.push _ }
  | setWindow other =>
      have different : name ≠ other := fun same => unmentioned (same ▸ rfl)
      exact gains.setWindow different updated
  | unsetWindow => exact gains.setWindow ordinary updated
  | addColor color foreground background =>
      have allowed := updated
      rw [Action.update, Session.addColor, hasColor, ← gains.colors, ← gains.options] at allowed
      split at allowed
      · cases allowed
      · rename_i free
        cases Session.addColor_eq_ok updated
        refine ⟨{ richer with colors := color :: richer.colors }, ?_, ?_⟩
        · rw [Action.update, Session.addColor, hasColor, if_neg free]
        · exact { gains with colors := congrArg (color :: ·) gains.colors }
  | setEcho on =>
      cases updated
      exact ⟨_, rfl, { gains with echo := rfl }⟩
  | setCbreak on =>
      cases updated
      exact ⟨_, rfl, { gains with cbreak := rfl }⟩
  | setKeypad on =>
      cases updated
      exact ⟨_, rfl, { gains with windows := gains.windows.modify ({ · with keypad := on }) }⟩
  | setNoDelay on =>
      cases updated
      exact ⟨_, rfl, { gains with windows := gains.windows.modify ({ · with noDelay := on }) }⟩
  | _ =>
      cases updated
      exact ⟨richer, rfl, gains⟩

theorem met (gains : plain.Gains name count richer) (ordinary : name ≠ Window.defaultName)
    {action : Action} (unmentioned : (Command.act action).window? ≠ some name)
    (met : action.Met plain) : action.Met richer := by
  intro requirement required
  rw [gains.checkActive (Action.window?_ne_of_mem unmentioned ordinary required)]
  exact met requirement required

/-- Whatever commands follow, they are accepted in the second session if they are in the first. As
long as the sessions go on they differ in the one window, and once they have ended in nothing. -/
theorem follow (gains : plain.Gains name count richer) (ordinary : name ≠ Window.defaultName)
    {commands : List Command} (unmentioned : ∀ command ∈ commands, command.window? ≠ some name)
    {last : Phase} (followed : Phase.follow (.active plain) commands = .ok last) :
    ∃ richerLast, Phase.follow (.active richer) commands = .ok richerLast ∧
      (.deinit ∈ commands → richerLast = last) ∧
      (.deinit ∉ commands → ∃ plainLast others, last = .active plainLast ∧
        richerLast = .active others ∧ plainLast.Gains name count others) := by
  induction commands generalizing plain richer with
  | nil =>
      cases followed
      exact ⟨_, rfl, by simp, fun _ => ⟨plain, richer, rfl, rfl, gains⟩⟩
  | cons command rest induction =>
      rcases (Phase.follow_cons_eq_ok_iff _ _ _ _).mp followed with ⟨middle, applied, restFollowed⟩
      have mentionsNot := unmentioned command List.mem_cons_self
      cases (Command.apply_eq_ok_iff _ _ _).mp applied with
      | deinit =>
          refine ⟨last, ?_, fun _ => rfl, by simp⟩
          exact (Phase.follow_cons_eq_ok_iff _ _ _ _).mpr ⟨.inactive, rfl, restFollowed⟩
      | act met updated =>
          rcases gains.update ordinary mentionsNot updated with ⟨richerNext, richerUpdated, both⟩
          have richerApplied := (Command.apply_eq_ok_iff _ _ _).mpr
            (.act (gains.met ordinary mentionsNot met) richerUpdated)
          have later : ∀ command ∈ rest, command.window? ≠ some name := fun command member =>
            unmentioned command (List.mem_cons_of_mem _ member)
          rcases induction both later restFollowed with ⟨richerLast, richerFollowed, ended, runs⟩
          refine ⟨richerLast, ?_, ?_, ?_⟩
          · exact (Phase.follow_cons_eq_ok_iff _ _ _ _).mpr ⟨_, richerApplied, richerFollowed⟩
          · simpa using ended
          · simpa using runs

end Gains

end Session

namespace Phase

/-- A window whose name nothing mentions can be added to a program wherever a session runs. At every
place after that the session is the same but for this window, and when it has ended there is no
difference at all. -/
theorem unrelated_window_changes_nothing_else {before after : List Command} {program : Program}
    {last : Phase} {session : Session} {name : String}
    (accepted : Program.validateFrom .inactive (before ++ after) = .ok (program, last))
    (running : Phase.follow .inactive before = .ok (.active session))
    (ordinary : name ≠ Window.defaultName) (unused : session.hasWindow name = false)
    (unmentioned : ∀ command ∈ after, command.window? ≠ some name) (position : Position)
    (size : Size) :
    let added : Command := .act (.addWindow name position size none)
    (∃ richerLast, Program.validateFrom .inactive (before ++ added :: after) =
      .ok (⟨before ++ added :: after⟩, richerLast)) ∧
    ∀ front back, after = front ++ back →
      ∃ plain richer, Phase.follow .inactive (before ++ front) = .ok plain ∧
        Phase.follow .inactive (before ++ added :: front) = .ok richer ∧
        (.deinit ∈ front → richer = plain) ∧
        (.deinit ∉ front → ∃ without others, plain = .active without ∧ richer = .active others ∧
          without.Gains name session.windows.toList.length others ∧
          others.currentWindow = without.currentWindow ∧
          ∃ newer older, without.windows.toList = newer ++ older ∧
            others.windows.toList = newer ++ { name } :: older ∧
            others.windows.index =
              if without.windows.index < newer.length then without.windows.index
              else without.windows.index + 1) := by
  intro added
  rcases Session.gains_addWindow unused with ⟨started, isAdded, gains⟩
  have applied : added.apply (.active session) = .ok (.active started) := by
    refine (Command.apply_eq_ok_iff _ _ _).mpr (.act ?_ isAdded)
    intro requirement required
    cases List.mem_singleton.mp required
    simp [Requirement.checkActive, unused]
  -- the commands before the window lead to the session, and from there both go on together
  have both : ∀ front plain, (∀ command ∈ front, command.window? ≠ some name) →
      Phase.follow .inactive (before ++ front) = .ok plain →
      ∃ richer, Phase.follow .inactive (before ++ added :: front) = .ok richer ∧
        (.deinit ∈ front → richer = plain) ∧
        (.deinit ∉ front → ∃ without others, plain = .active without ∧ richer = .active others ∧
          without.Gains name session.windows.toList.length others) := by
    intro front plain quiet followed
    rcases (follow_append_eq_ok_iff _ _ _ _).mp followed with ⟨middle, reached, rest⟩
    cases running.symm.trans reached
    rcases gains.follow ordinary quiet rest with ⟨richer, richerFollowed, ended, runs⟩
    refine ⟨richer, ?_, ended, runs⟩
    refine (follow_append_eq_ok_iff _ _ _ _).mpr ⟨_, running, ?_⟩
    exact (follow_cons_eq_ok_iff _ _ _ _).mpr ⟨_, applied, richerFollowed⟩
  have followed := ((Program.validateFrom_eq_ok_iff _ _ _ _).mp accepted).2
  constructor
  · rcases both after last unmentioned followed with ⟨richerLast, richerFollowed, _⟩
    exact ⟨richerLast, (Program.validateFrom_eq_ok_iff _ _ _ _).mpr ⟨rfl, richerFollowed⟩⟩
  · rintro front back rfl
    rw [← List.append_assoc] at followed
    rcases (follow_append_eq_ok_iff _ _ _ _).mp followed with ⟨plain, plainFollowed, _⟩
    have quiet : ∀ command ∈ front, command.window? ≠ some name := fun command member =>
      unmentioned command (List.mem_append_left _ member)
    rcases both front plain quiet plainFollowed with ⟨richer, richerFollowed, ended, runs⟩
    refine ⟨plain, richer, plainFollowed, richerFollowed, ended, ?_⟩
    intro goesOn
    rcases runs goesOn with ⟨without, others, plainActive, richerActive, gained⟩
    rcases gained.windows.members with ⟨newer, older, _, members⟩
    exact ⟨without, others, plainActive, richerActive, gained, gained.currentWindow, newer, older,
      members⟩

/-- The window's place moves behind the windows that are made after it, and when the current window
is an older one the place of that shifts. -/
theorem margin_changes_nothing_else :
    let before : List Command :=
      [.init { names := .unique }, .act (.addWindow "log" .origin ⟨3, 3⟩ none)]
    let first : List Command := [.act (.setWindow "log"), .act (.setKeypad false),
      .act (.addWindow "help" .origin ⟨3, 3⟩ none), .act (.readAs .char)]
    let after := first ++ [.deinit, .init {}]
    let added : Command := .act (.addWindow "margin" .origin ⟨3, 3⟩ none)
    ∃ session, Phase.follow .inactive before = .ok (.active session) ∧
      session.hasWindow "margin" = false ∧
      (∀ command ∈ after, command.window? ≠ some "margin") ∧
      ∃ plain richer, Phase.follow .inactive (before ++ first) = .ok (.active plain) ∧
        Phase.follow .inactive (before ++ added :: first) = .ok (.active richer) ∧
        plain.Gains "margin" 2 richer ∧ (plain.windows.index, richer.windows.index) = (1, 2) := by
  intro before first after added
  have accepted : ∃ last, Program.validateFrom .inactive (before ++ after) =
      .ok (⟨before ++ after⟩, last) := ⟨_, rfl⟩
  have running : ∃ session, Phase.follow .inactive before = .ok (.active session) ∧
      session.hasWindow "margin" = false ∧ session.windows.toList.length = 2 := by
    exact ⟨_, rfl, rfl, rfl⟩
  rcases accepted with ⟨last, accepted⟩
  rcases running with ⟨session, running, unused, two⟩
  have unmentioned : ∀ command ∈ after, command.window? ≠ some "margin" := by decide
  have apart := (unrelated_window_changes_nothing_else accepted running (by decide) unused
    unmentioned .origin ⟨3, 3⟩).2 first [.deinit, .init {}] rfl
  rcases apart with ⟨_, _, plainFollowed, richerFollowed, _, runs⟩
  rcases runs (by decide) with ⟨plain, richer, rfl, rfl, gains, _⟩
  refine ⟨session, running, unused, unmentioned, plain, richer, plainFollowed, richerFollowed,
    two ▸ gains, ?_⟩
  cases plainFollowed
  cases richerFollowed
  rfl

end Phase

end TerminalSession
