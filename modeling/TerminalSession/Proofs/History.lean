import Mathlib.Data.List.Induction
import TerminalSession.Proofs.Transition

/-! # A session is what its commands made it

A session stores where its current window stands among the others, and this place shifts whenever a
window is added. What the session means can be said without places: a window is known by the number
of windows that are older, and everything else by the latest command that set it. -/

namespace TerminalSession

namespace Focus

variable {α : Type}

def eldest (focus : Focus α) : List α := focus.toList.reverse

theorem eldest_push (focus : Focus α) (member : α) :
    (focus.push member).eldest = focus.eldest ++ [member] := by
  simp [eldest]

theorem getElem?_eldest_modify (focus : Focus α) (change : α → α) (number : Nat) :
    (focus.modify change).eldest[number]? =
      if number = focus.older.length then some (change focus.current)
      else focus.eldest[number]? := by
  simp only [eldest, toList, modify, List.reverse_append, List.reverse_cons, List.append_assoc,
    List.cons_append, List.nil_append]
  rcases Nat.lt_trichotomy number focus.older.length with before | here | after
  · rw [List.getElem?_append_left (by simpa using before),
      List.getElem?_append_left (by simpa using before), if_neg (Nat.ne_of_lt before)]
  · rw [List.getElem?_append_right (by simp [here]), if_pos here]
    simp [here]
  · obtain ⟨distance, rfl⟩ := Nat.exists_eq_add_of_lt after
    rw [List.getElem?_append_right (by simp; omega), List.getElem?_append_right (by simp; omega),
      if_neg (by omega), List.length_reverse, Nat.add_assoc, Nat.add_sub_cancel_left]
    rfl

theorem map_toList_modify {β : Type} (focus : Focus α) {change : α → α} {read : α → β}
    (kept : ∀ member, read (change member) = read member) :
    (focus.modify change).toList.map read = focus.toList.map read := by
  simp [toList, modify, kept]

theorem exists_ofList? {wanted : α → Bool} {members : List α} {member : α}
    (present : member ∈ members) (isWanted : wanted member = true) :
    ∃ focus, ofList? wanted members = some focus := by
  induction members with
  | nil => cases present
  | cons first rest induction =>
      rw [ofList?]
      split
      · exact ⟨_, rfl⟩
      · rename_i passed
        rcases List.mem_cons.mp present with rfl | later
        · exact absurd isWanted passed
        · rcases induction later with ⟨focus, found⟩
          rw [found]
          exact ⟨_, rfl⟩

end Focus

/-! ## What a history says

A question is answered by the latest entry that answers it, and an answer may depend on what was
there before the entry. Histories have their latest entry first. A window that was not there yet has
its flags as they are at first. -/

def latest {α β : Type} (answer : α → List α → Option β) : List α → Option β
  | [] => none
  | entry :: earlier => (answer entry earlier).or (latest answer earlier)

namespace Command

def addedWindow? : Command → Option String
  | act (.addWindow name _ _ _) => some name
  | _ => none

def addedColor? : Command → Option String
  | act (.addColor name _ _) => some name
  | _ => none

def selectedWindow? : Command → Option String
  | act (.setWindow name) => some name
  | act .unsetWindow => some Window.defaultName
  | _ => none

def keypad? : Command → Option Bool
  | act (.setKeypad on) => some on
  | _ => none

def noDelay? : Command → Option Bool
  | act (.setNoDelay on) => some on
  | _ => none

def cbreak? : Command → Option Bool
  | act (.setCbreak on) => some on
  | _ => none

def echo? : Command → Option Bool
  | act (.setEcho on) => some on
  | _ => none

end Command

namespace History

def windowNames (history : List Command) : List String :=
  history.filterMap Command.addedWindow? ++ [Window.defaultName]

def newest (name : String) : List String → Option Nat
  | [] => none
  | first :: older => if first = name then some older.length else newest name older

/-- The current window, by the number of windows that are older. It was chosen by the latest command
that asks for a window, among those there were then. -/
def current (history : List Command) : Nat :=
  (latest (fun command earlier =>
    command.selectedWindow?.bind fun name => newest name (windowNames earlier)) history).getD 0

def flag (set? : Command → Option Bool) (initial : Bool) (number : Nat)
    (history : List Command) : Bool :=
  (latest (fun command earlier =>
    (set? command).bind fun on => if current earlier = number then some on else none)
    history).getD initial

def mode (set? : Command → Option Bool) (initial : Bool) (history : List Command) : Bool :=
  (latest (fun command _ => set? command) history).getD initial

variable {history : List Command} {command : Command}

theorem newest_lt {name : String} {names : List String} {number : Nat}
    (found : newest name names = some number) : number < names.length := by
  induction names with
  | nil => cases found
  | cons first older induction =>
      rw [newest] at found
      split at found
      · cases found
        exact Nat.lt_succ_self _
      · exact Nat.lt_succ_of_lt (induction found)

theorem length_windowNames_le (command : Command) (history : List Command) :
    (windowNames history).length ≤ (windowNames (command :: history)).length := by
  simp only [windowNames, List.filterMap_cons]
  cases command.addedWindow? with
  | none => exact Nat.le_refl _
  | some name => exact Nat.le_succ _

theorem current_lt (history : List Command) : current history < (windowNames history).length := by
  induction history with
  | nil => exact Nat.one_pos
  | cons command earlier induction =>
      refine Nat.lt_of_lt_of_le ?_ (length_windowNames_le command earlier)
      unfold current at induction ⊢
      rw [latest]
      cases found : command.selectedWindow?.bind fun name => newest name (windowNames earlier) with
      | none => exact induction
      | some number =>
          rcases Option.bind_eq_some_iff.mp found with ⟨name, _, foundNumber⟩
          exact newest_lt foundNumber

theorem flag_unborn (set? : Command → Option Bool) (initial : Bool) {number : Nat}
    {history : List Command} (unborn : (windowNames history).length ≤ number) :
    flag set? initial number history = initial := by
  induction history with
  | nil => rfl
  | cons command earlier induction =>
      -- the command met another window, because those it could meet are all older
      have before := Nat.le_trans (length_windowNames_le command earlier) unborn
      have other : current earlier ≠ number :=
        Nat.ne_of_lt (Nat.lt_of_lt_of_le (current_lt earlier) before)
      have same := induction before
      unfold flag at same ⊢
      rw [latest]
      simpa [other] using same

/-! ## What a session keeps of its history

Every action adds to the history what it changes in the session. Looking for a window by its name
finds the newest one. -/

def FlagFits (read : Window → Bool) (set? : Command → Option Bool) (initial : Bool)
    (history : List Command) (windows : Focus Window) : Prop :=
  ∀ number window, windows.eldest[number]? = some window →
    read window = flag set? initial number history

section

variable {read : Window → Bool} {set? : Command → Option Bool} {initial : Bool}
  {windows : Focus Window}

theorem FlagFits.push (fits : FlagFits read set? initial history windows)
    (other : set? command = none)
    (counted : windows.eldest.length = (windowNames history).length) {member : Window}
    (fresh : read member = initial) :
    FlagFits read set? initial (command :: history) (windows.push member) := by
  intro number window found
  have same : flag set? initial number (command :: history) = flag set? initial number history := by
    simp [flag, latest, other]
  rw [same]
  rw [Focus.eldest_push] at found
  rcases Nat.lt_or_ge number windows.eldest.length with before | after
  · rw [List.getElem?_append_left before] at found
    exact fits number window found
  · rw [List.getElem?_append_right after, List.getElem?_singleton] at found
    split at found
    · cases found
      rw [fresh, flag_unborn set? initial (counted ▸ after)]
    · cases found

theorem FlagFits.modify (fits : FlagFits read set? initial history windows) {on : Bool}
    (sets : set? command = some on) (here : windows.older.length = current history)
    {change : Window → Window} (changed : ∀ window, read (change window) = on) :
    FlagFits read set? initial (command :: history) (windows.modify change) := by
  intro number window found
  rw [Focus.getElem?_eldest_modify] at found
  split at found
  · rename_i place
    cases found
    simp [changed, flag, latest, sets, place, here]
  · rename_i elsewhere
    have other : current history ≠ number := here ▸ Ne.symm elsewhere
    rw [fits number window found]
    simp [flag, latest, other]

theorem FlagFits.modify_other (fits : FlagFits read set? initial history windows)
    (other : set? command = none) {change : Window → Window}
    (kept : ∀ window, read (change window) = read window) :
    FlagFits read set? initial (command :: history) (windows.modify change) := by
  intro number window found
  have same : flag set? initial number (command :: history) = flag set? initial number history := by
    simp [flag, latest, other]
  rw [same]
  rw [Focus.getElem?_eldest_modify] at found
  split at found
  · rename_i place
    cases found
    rw [kept]
    refine fits number windows.current ?_
    simp [Focus.eldest, Focus.toList, place]
  · exact fits number window found

end

structure Recounts (options : SessionOptions) (history : List Command) (session : Session) :
    Prop where
  names : session.windows.toList.map (·.name) = windowNames history
  current : session.windows.older.length = current history
  keypad : FlagFits (·.keypad) Command.keypad? true history session.windows
  noDelay : FlagFits (·.noDelay) Command.noDelay? false history session.windows
  colors : session.colors = history.filterMap Command.addedColor?
  cbreak : session.cbreak = mode Command.cbreak? true history
  echo : session.echo = mode Command.echo? false history
  options : session.options = options

theorem flagFits_fresh {read : Window → Bool} (set? : Command → Option Bool) {initial : Bool}
    (fresh : read { name := Window.defaultName } = initial) :
    FlagFits read set? initial [] (.single { name := Window.defaultName }) := by
  intro number window found
  cases number with
  | zero =>
      cases found
      exact fresh
  | succ number => cases found

theorem recounts_fresh (options : SessionOptions) : Recounts options [] (.fresh options) where
  names := rfl
  current := rfl
  keypad := flagFits_fresh _ rfl
  noDelay := flagFits_fresh _ rfl
  colors := rfl
  cbreak := rfl
  echo := rfl
  options := rfl

/-- Looking for a window by its name finds the newest one. -/
theorem newest_of_ofList? {name : String} {members : List Window} {windows : Focus Window}
    (found : Focus.ofList? (·.name = name) members = some windows) :
    newest name (members.map (·.name)) = some windows.older.length := by
  induction members generalizing windows with
  | nil => cases found
  | cons member rest induction =>
      rw [Focus.ofList?] at found
      rw [List.map_cons, newest]
      by_cases same : member.name = name
      · simp only [same, decide_true, if_true, Option.some.injEq] at found
        subst found
        simp [same]
      · simp only [same, decide_false, Bool.false_eq_true, if_false] at found
        obtain ⟨inner, innerFound, rfl⟩ := Option.map_eq_some_iff.mp found
        rw [if_neg same, induction innerFound]
        rfl

section

variable {options : SessionOptions} {session next : Session}

theorem Recounts.select (recounts : Recounts options history session) {name : String}
    (updated : session.setWindow name = .ok next) :
    Recounts options (.act (.setWindow name) :: history) next := by
  rcases Session.setWindow_eq_ok updated with ⟨windows, selected, rfl⟩
  have members := Focus.toList_select? selected
  have found := newest_of_ofList? selected
  rw [recounts.names] at found
  exact { recounts with
    names := by
      rw [members]
      exact recounts.names
    current := by simp [History.current, latest, Command.selectedWindow?, found]
    keypad := by
      rw [FlagFits, Focus.eldest, members]
      exact recounts.keypad
    noDelay := by
      rw [FlagFits, Focus.eldest, members]
      exact recounts.noDelay }

/-- Every action adds to the history what it changes in the session. -/
theorem Recounts.act (recounts : Recounts options history session) {action : Action}
    (updated : action.update session = .ok next) :
    Recounts options (.act action :: history) next := by
  cases action with
  | addWindow name position size border =>
      cases Session.addWindow_eq_ok updated
      have counted : session.windows.eldest.length = (windowNames history).length := by
        rw [Focus.eldest, List.length_reverse, ← recounts.names, List.length_map]
      exact { recounts with
        names := congrArg (name :: ·) recounts.names
        keypad := recounts.keypad.push rfl counted rfl
        noDelay := recounts.noDelay.push rfl counted rfl }
  | setWindow name => exact recounts.select updated
  | unsetWindow => exact { recounts.select updated with }
  | addColor name foreground background =>
      cases Session.addColor_eq_ok updated
      exact { recounts with colors := congrArg (name :: ·) recounts.colors }
  | setKeypad on =>
      cases updated
      exact { recounts with
        names := by
          rw [Session.setKeypad, Focus.map_toList_modify]
          · exact recounts.names
          · exact fun _ => rfl
        keypad := recounts.keypad.modify rfl recounts.current fun _ => rfl
        noDelay := recounts.noDelay.modify_other rfl fun _ => rfl }
  | setNoDelay on =>
      cases updated
      exact { recounts with
        names := by
          rw [Session.setNoDelay, Focus.map_toList_modify]
          · exact recounts.names
          · exact fun _ => rfl
        keypad := recounts.keypad.modify_other rfl fun _ => rfl
        noDelay := recounts.noDelay.modify rfl recounts.current fun _ => rfl }
  | setCbreak on =>
      cases updated
      exact { recounts with cbreak := rfl }
  | setEcho on =>
      cases updated
      exact { recounts with echo := rfl }
  | _ =>
      cases updated
      exact { recounts with }

theorem Recounts.unsetWindow_accepted (recounts : Recounts options history session) :
    ∃ next, (Command.act .unsetWindow).apply (.active session) = .ok next := by
  have present : Window.defaultName ∈ session.windows.toList.map (·.name) := by
    rw [recounts.names, windowNames]
    exact List.mem_append_right _ (List.mem_singleton.mpr rfl)
  rcases List.mem_map.mp present with ⟨window, member, named⟩
  have selected : ∃ windows, session.windows.select? (·.name = Window.defaultName) = some windows :=
    Focus.exists_ofList? member (decide_eq_true named)
  rcases selected with ⟨windows, found⟩
  have updated : Action.unsetWindow.update session = .ok { session with windows } := by
    simp only [Action.update, Session.unsetWindow, Session.setWindow, found]
  have met : Action.unsetWindow.Met session := by
    intro requirement required
    cases List.mem_singleton.mp required
    have there : session.hasWindow Window.defaultName = true :=
      List.any_eq_true.mpr ⟨window, member, decide_eq_true named⟩
    simp [Requirement.checkActive, there]
  exact ⟨_, (Command.apply_eq_ok_iff _ _ _).mpr (.act met updated)⟩

theorem Recounts.hasColor_later (recounts : Recounts options history session)
    {later : List Command} (after : Recounts options (later ++ history) next) {name : String}
    (registered : session.hasColor name = true) : next.hasColor name = true := by
  rw [Session.hasColor, List.contains_iff_mem, recounts.colors] at registered
  rw [Session.hasColor, List.contains_iff_mem, after.colors, List.filterMap_append]
  exact List.mem_append_right _ registered

end

/-! ## Whole histories -/

theorem recounts_of_follow {options : SessionOptions} {commands : List Command} {phase : Phase}
    (accepted : Phase.follow (.active (.fresh options)) commands = .ok phase)
    (stays : .deinit ∉ commands) :
    ∃ session, phase = .active session ∧ Recounts options commands.reverse session := by
  induction commands using List.reverseRecOn generalizing phase with
  | nil =>
      cases accepted
      exact ⟨_, rfl, recounts_fresh options⟩
  | append_singleton earlier command induction =>
      rcases (Phase.follow_append_eq_ok_iff _ _ _ _).mp accepted with ⟨middle, before, last⟩
      have staysBefore : .deinit ∉ earlier := fun member => stays (List.mem_append_left _ member)
      rcases induction before staysBefore with ⟨session, rfl, recounts⟩
      rcases (Phase.follow_cons_eq_ok_iff _ _ _ _).mp last with ⟨next, applied, ended⟩
      cases ended
      rw [List.reverse_append]
      cases (Command.apply_eq_ok_iff _ _ _).mp applied with
      | deinit session => exact absurd (List.mem_append_right _ (List.mem_singleton.mpr rfl)) stays
      | act met updated => exact ⟨_, rfl, recounts.act updated⟩

/-- Whatever was done in a session since it started, the session is what the latest commands of each
kind made it. -/
theorem session_of_history {options : SessionOptions} {commands : List Command} {phase : Phase}
    (accepted : Phase.follow .inactive (.init options :: commands) = .ok phase)
    (stays : .deinit ∉ commands) :
    ∃ session, phase = .active session ∧ Recounts options commands.reverse session ∧
      session.colorNames = commands.filterMap Command.addedColor? ∧
      session.isWellFormed = true ∧
      (∃ next, (Command.act .unsetWindow).apply phase = .ok next) ∧
      ∀ before after, commands = before ++ after →
        ∃ earlier, Phase.follow .inactive (.init options :: before) = .ok (.active earlier) ∧
          ∀ name, earlier.hasColor name = true → session.hasColor name = true := by
  rcases (Phase.follow_cons_eq_ok_iff _ _ _ _).mp accepted with ⟨started, applied, followed⟩
  cases applied
  rcases recounts_of_follow followed stays with ⟨session, rfl, recounts⟩
  refine ⟨session, rfl, recounts, ?_, Session.isWellFormed_eq_true session,
    recounts.unsetWindow_accepted, ?_⟩
  · rw [Session.colorNames, recounts.colors, ← List.filterMap_reverse, List.reverse_reverse]
  · intro before after equal
    subst equal
    rcases (Phase.follow_append_eq_ok_iff _ _ _ _).mp followed with ⟨middle, first, _⟩
    have staysBefore : .deinit ∉ before := fun member => stays (List.mem_append_left _ member)
    rcases recounts_of_follow first staysBefore with ⟨earlier, rfl, recountsBefore⟩
    refine ⟨earlier, (Phase.follow_cons_eq_ok_iff _ _ _ _).mpr ⟨_, rfl, first⟩, fun name => ?_⟩
    rw [List.reverse_append] at recounts
    exact recountsBefore.hasColor_later recounts

/-- A window stays current when another of its name is added, and only its own flags change. -/
theorem session_of_shadowed_name :
    let added : Command := .act (.addWindow "w" .origin ⟨3, 3⟩ none)
    let commands := [added, .act (.setWindow "w"), added, .act (.setKeypad false)]
    .deinit ∉ commands ∧ ∃ phase, Phase.follow .inactive (.init {} :: commands) = .ok phase ∧
      ∃ session, phase = .active session ∧ Recounts {} commands.reverse session ∧
        session.windows.older.length = 1 ∧
        session.windows.eldest.map (·.keypad) = [true, false, true] := by
  intro added commands
  have stays : .deinit ∉ commands := by decide
  have accepted : ∃ phase, Phase.follow .inactive (.init {} :: commands) = .ok phase := ⟨_, rfl⟩
  rcases accepted with ⟨phase, accepted⟩
  rcases session_of_history accepted stays with ⟨session, rfl, recounts, _⟩
  refine ⟨stays, _, accepted, session, rfl, recounts, recounts.current, ?_⟩
  cases accepted
  rfl

end History

end TerminalSession
