import TerminalSession.Proofs.TypedInput

/-! # Cursors stay in their windows

Whatever moves a cursor, or changes the size of a window, takes care that the cursor is on a cell of
the window, as far as it has cells. There is one exception: when the terminal gets smaller, the full
screen gets smaller with it, and its cursor stays where it was. -/

namespace TerminalSession

/-- The cursor is on a cell of the pane. Where a pane has no rows or no columns it is on the
first. -/
structure Pane.Inside (pane : Pane) : Prop where
  row : pane.cursor.row.toNat ≤ pane.size.rows.toNat - 1
  col : pane.cursor.col.toNat ≤ pane.size.cols.toNat - 1

structure Size.Fits (size other : Size) : Prop where
  rows : size.rows ≤ other.rows
  cols : size.cols ≤ other.cols

namespace Pane

variable {pane : Pane}

theorem inside_origin (pane : Pane) : Inside { pane with cursor := .origin } :=
  ⟨Nat.zero_le _, Nat.zero_le _⟩

theorem inside_clamp (pane : Pane) (size : Size) (position : Position) :
    Inside { pane with size, cursor := size.clamp position } := by
  constructor
  · simp only [Size.clamp, Coordinate.toNat_least, Coordinate.toNat_last]
    omega
  · simp only [Size.clamp, Coordinate.toNat_least, Coordinate.toNat_last]
    omega

theorem inside_lineBelow (pane : Pane) (row : Coordinate) :
    Inside { pane with cursor := pane.lineBelow row } := by
  constructor
  · simp only [lineBelow, Coordinate.toNat_least, Coordinate.toNat_last]
    omega
  · exact Nat.zero_le _

theorem Inside.grow (inside : pane.Inside) {size : Size} (fits : pane.size.Fits size) :
    Inside { pane with size } := by
  have rows := UInt16.le_iff_toNat_le.mp fits.rows
  have cols := UInt16.le_iff_toNat_le.mp fits.cols
  constructor
  · exact Nat.le_trans inside.row (Nat.sub_le_sub_right rows 1)
  · exact Nat.le_trans inside.col (Nat.sub_le_sub_right cols 1)

end Pane

namespace Screen

variable {pane : Pane}

theorem inside_advance {start : Position} (inside : Pane.Inside { pane with cursor := start })
    (col : Coordinate) :
    Pane.Inside { pane with
      cursor :=
        if pane.size.cols ≤ col then pane.lineBelow start.row else { start with col } } := by
  split
  · exact pane.inside_lineBelow _
  · rename_i free
    have less := UInt16.lt_iff_toNat_lt.mp (UInt16.not_le.mp free)
    exact ⟨inside.row, by simp only; omega⟩

theorem inside_place (inside : pane.Inside) (character : Char) :
    Pane.Inside { pane with cursor := (place pane character).2 } := by
  by_cases line : character = '\n'
  · simp only [place, line, if_true]
    exact pane.inside_lineBelow _
  · simp only [place, line, if_false]
    apply inside_advance
    split
    · exact pane.inside_lineBelow _
    · exact inside

/-! ## What drawing does to windows

Drawing looks a pane up, draws in it, and puts it back with another cursor or another look. -/

def Contained (counted : Handle → Prop) (screen : Screen) : Prop :=
  ∀ window pane, counted window → screen.panes.get? window = some pane → pane.Inside

def fullSize? (screen : Screen) : Option Size := (screen.panes.get? 0).map Pane.size

def Contains (counted : Handle → Prop) (before after : Screen) : Prop :=
  Contained counted before → Contained counted after

structure Redraws (counted : Handle → Prop) (before after : Screen) : Prop where
  contains : Contains counted before after
  full : after.fullSize? = before.fullSize?
  events : after.device.events = before.device.events

def Prints (before after : Screen) : Prop :=
  ∃ output, after = { before with device.output := output }

variable {counted : Handle → Prop} {start stop : Screen} {window : Handle} {α β : Type}

theorem contains_of_panes (same : stop.panes = start.panes) : Contains counted start stop := by
  intro contained window pane counts found
  rw [same] at found
  exact contained window pane counts found

theorem Prints.redraws (prints : Prints start stop) : Redraws counted start stop := by
  rcases prints with ⟨output, rfl⟩
  exact ⟨contains_of_panes rfl, rfl, rfl⟩

instance : Std.Refl Prints := ⟨fun screen => ⟨screen.device.output, rfl⟩⟩

instance : IsTrans Screen Prints where
  trans := by
    rintro _ _ _ ⟨_, rfl⟩ ⟨output, rfl⟩
    exact ⟨output, rfl⟩

theorem prints_output : IgnoresOutput Prints := fun _ output => ⟨output, rfl⟩

instance : Std.Refl (Redraws counted) := ⟨fun _ => ⟨id, rfl, rfl⟩⟩

instance : IsTrans Screen (Redraws counted) where
  trans _ _ _ first second :=
    ⟨second.contains ∘ first.contains, second.full.trans first.full,
      second.events.trans first.events⟩

theorem redraws_output : IgnoresOutput (Redraws counted) := fun _ _ => ⟨id, rfl, rfl⟩

instance : Std.Refl (Contains counted) := ⟨fun _ => id⟩

instance : IsTrans Screen (Contains counted) := ⟨fun _ _ _ first second => second ∘ first⟩

theorem contains_output : IgnoresOutput (Contains counted) := fun _ _ => id

theorem contained_set (contained : Contained counted start)
    (found : start.panes.get? window = some pane) {after : Pane}
    (inside : counted window → after.Inside) :
    Contained counted { start with panes := start.panes.set window after } := by
  intro other drawn counts there
  simp only [Panes.get?_set found] at there
  split at there
  · rename_i same
    cases there
    exact inside (same ▸ counts)
  · exact contained other drawn counts there

theorem ends_pane_bind {next : Pane → Work α} {returned : α → Screen → Prop}
    {failed : Fault → Screen → Prop} (absent : failed .invalidHandle start)
    (present : ∀ pane, start.panes.get? window = some pane →
      Ends (next pane) start returned failed) :
    Ends (Screen.pane window >>= next) start returned failed := by
  simp only [Screen.pane, bind_assoc, ends_bind, ends_get]
  cases found : start.panes.get? window with
  | none => exact absent
  | some pane => exact present pane found

theorem redrawing {drawing : Pane → Work Unit} {change : Pane → Pane}
    (drawn : ∀ pane, Leaves Prints (drawing pane))
    (kept : ∀ pane : Pane, pane.Inside → (change pane).Inside)
    (sized : ∀ pane : Pane, (change pane).size = pane.size) :
    Leaves (Redraws counted) (do
      let pane ← Screen.pane window
      drawing pane
      setPane window (change pane)) := by
  intro start
  apply ends_pane_bind (Std.Refl.refl start)
  intro pane found
  rw [ends_bind]
  apply (drawn pane start).mono
  · rintro _ _ ⟨output, rfl⟩
    rw [setPane, ends_modify]
    refine ⟨?_, ?_, rfl⟩
    · intro contained
      have same : Contained counted { start with device.output := output } := contained
      apply contained_set same found
      intro counts
      exact kept pane (contained window pane counts found)
    · simp only [fullSize?, Panes.get?_set found]
      split
      · rename_i same
        rw [same, found]
        exact congrArg some (sized pane)
      · rfl
  · intro _ _ prints
    exact prints.redraws

theorem modifyPane_redraws {change : Pane → Pane}
    (kept : ∀ pane : Pane, pane.Inside → (change pane).Inside)
    (sized : ∀ pane : Pane, (change pane).size = pane.size) :
    Leaves (Redraws counted) (do setPane window (change (← Screen.pane window))) := by
  have nothing : ∀ _ : Pane, Leaves Prints (pure ()) := fun _ => .pure ()
  have work : Leaves (Redraws counted) (do
      let pane ← Screen.pane window
      pure ()
      setPane window (change pane)) := redrawing nothing kept sized
  simpa only [pure_bind] using work

theorem modifyPane_redraws_of_eq {change : Pane → Pane}
    (cursor : ∀ pane, (change pane).cursor = pane.cursor)
    (sized : ∀ pane : Pane, (change pane).size = pane.size) :
    Leaves (Redraws counted) (do setPane window (change (← Screen.pane window))) := by
  apply modifyPane_redraws _ sized
  intro pane inside
  constructor
  · rw [cursor, sized]
    exact inside.row
  · rw [cursor, sized]
    exact inside.col

theorem putCell_redraws (character : Char) : Leaves (Redraws counted) (putCell window character) :=
  redrawing (fun pane => Leaves.writeAll prints_output (putCharacter pane character).1)
    (fun _ inside => inside_place inside character) (fun _ => rfl)

theorem blank_redraws : Leaves (Redraws counted) (blank window) := by
  have drawn : ∀ pane : Pane, Leaves Prints (do
      setRendition { pane.rendition with style := .plain }
      writeAll (blankRows pane)) := by
    intro pane
    apply (Leaves.setRendition prints_output _).bind
    intro _
    exact Leaves.writeAll prints_output _
  have work : Leaves (Redraws counted) (do
      let pane ← Screen.pane window
      (do
        setRendition { pane.rendition with style := .plain }
        writeAll (blankRows pane))
      setPane window { pane with cursor := .origin }) :=
    redrawing drawn (fun pane _ => pane.inside_origin) (fun _ => rfl)
  simpa only [bind_assoc, blank] using work

/-! ## Calls that read no input

A session starts with the full screen, its cursor at the origin. -/

theorem contained_ofScreen (screen : Screen) :
    Contained counted
      { screen with panes := .ofScreen screen.size, queue := {}, isOpen := true } := by
  intro window pane _ found
  cases window with
  | zero =>
      cases found
      exact ⟨Nat.zero_le _, Nat.zero_le _⟩
  | succ window => simp [Panes.ofScreen, Panes.get?] at found

theorem switchRawMode_contains : Leaves (Contains counted) switchRawMode :=
  Leaves.switchRawMode fun _ _ => contains_of_panes rfl

theorem openSession_contained :
    Ends openSession start (fun _ stop => Contained counted stop)
      (fun _ stop => Contains counted start stop) := by
  rw [openSession, ends_bind, ends_get]
  cases start.ownsDevice with
  | false => exact contained_ofScreen start
  | true =>
      apply switchRawMode_contains.ends_before (Std.Refl.refl start)
      intro _ _ same
      apply (Leaves.writeAll contains_output _).ends_before same
      intro _ _ same
      apply (Leaves.flush contains_output).ends_before same
      intro _ later same
      rw [ends_bind, ends_get]
      cases later.device.size with
      | none => exact same
      | some size => exact contained_ofScreen { later with size }

theorem add_contains (size : Size) (origin : Position) :
    Contains counted start { start with panes := start.panes.add { origin, size } } := by
  intro contained window pane counts found
  simp only [Panes.get?_add] at found
  split at found
  · cases found
    exact ⟨Nat.zero_le _, Nat.zero_le _⟩
  · exact contained window pane counts found

theorem remove_contains :
    Contains counted start { start with panes := start.panes.remove window } := by
  intro contained other pane counts found
  simp only [Panes.get?_remove] at found
  split at found
  · cases found
  · exact contained other pane counts found

theorem resize_contains (size : Size) :
    Leaves (Contains counted) (answer (.resizeWindow window size)) := by
  intro start
  apply ends_pane_bind (Std.Refl.refl start)
  intro pane found contained
  exact contained_set contained found fun _ => pane.inside_clamp size pane.cursor

theorem answer_contains {call : Call} (deaf : ∀ window, call ≠ .readInput window) :
    Leaves (Contains counted) (answer call) := by
  have plain : IgnoresOutput (Contains counted) := contains_output
  have redraws : ∀ {α : Type} {work : Work α}, Leaves (Redraws counted) work →
      Leaves (Contains counted) work := fun leaves => leaves.mono fun _ _ kept => kept.contains
  have put : ∀ window character, Leaves (Contains counted) (putCell window character) :=
    fun _ character => redraws (putCell_redraws character)
  cases call with
  | readInput window => exact absurd rfl (deaf window)
  | openSession =>
      intro start
      apply openSession_contained.mono
      · intro _ _ contained _
        exact contained
      · intro _ _ kept
        exact kept
  | closeSession =>
      exact Leaves.closeSession (fun instruction _ => Leaves.write plain instruction)
        (Leaves.flush plain) switchRawMode_contains fun _ => contains_of_panes rfl
  | setRawMode cbreak echo => exact Leaves.modify fun _ => contains_of_panes rfl
  | createWindow size origin =>
      intro start
      exact add_contains size origin
  | destroyWindow window =>
      exact Leaves.pane_bind window fun _ => Leaves.modify fun _ => remove_contains
  | putChar window character =>
      exact Leaves.pane_bind window fun _ =>
        (Leaves.setRendition plain _).bind fun _ => put window character
  | putText window text =>
      exact Leaves.pane_bind window fun _ =>
        (Leaves.setRendition plain _).bind fun _ => Leaves.forM (put window) _
  | moveCursor window position =>
      exact redraws (modifyPane_redraws (fun pane _ => pane.inside_clamp pane.size position)
        (fun _ => rfl))
  | clear window =>
      simp only [Screen.answer]
      split
      · exact (Leaves.write plain _).bind fun _ => redraws blank_redraws
      · exact redraws blank_redraws
  | erase window => exact redraws blank_redraws
  | resizeWindow window size => exact resize_contains size
  | setKeypad window keypad =>
      exact redraws (modifyPane_redraws_of_eq (fun _ => rfl) (fun _ => rfl))
  | setNoDelay window noDelay =>
      exact redraws (modifyPane_redraws_of_eq (fun _ => rfl) (fun _ => rfl))
  | allocatePair foreground background =>
      exact Leaves.allocatePair (fun _ _ => contains_of_panes rfl) foreground background
  | applyAttribute window look operation =>
      exact redraws (modifyPane_redraws_of_eq (fun _ => rfl) (fun _ => rfl))
  | _ => exact Leaves.answer_writing plain rfl

/-! ## Reads

Only reads hear that the terminal has got another size. It is that of the full screen from then on,
and the cursor of the full screen stays where it was. -/

def Occurrence.resized (size : Size) : Occurrence → Size
  | .event (.resize next) => next
  | _ => size

def Grows : Size → List Occurrence → Prop
  | _, [] => True
  | size, occurrence :: rest =>
      size.Fits (occurrence.resized size) ∧ Grows (occurrence.resized size) rest

theorem grows_append (size : Size) (first second : List Occurrence) :
    Grows size (first ++ second) ↔
      Grows size first ∧ Grows (first.foldl Occurrence.resized size) second := by
  induction first generalizing size with
  | nil => simp [Grows]
  | cons occurrence rest induction =>
      simp only [List.cons_append, Grows, List.foldl_cons, induction, and_assoc]

def Spares (counted : Handle → Prop) (screen : Screen) (lost : List Occurrence) : Prop :=
  counted 0 → ∀ size, screen.fullSize? = some size → Grows size lost

/-- Between the two screens this happened. Cursors that were inside are inside, unless the full
screen got smaller. -/
structure Hears (counted : Handle → Prop) (lost : List Occurrence) (before after : Screen) :
    Prop where
  events : before.device.events = lost ++ after.device.events
  full : after.fullSize? = before.fullSize?.map (lost.foldl Occurrence.resized)
  contains : Spares counted before lost → Contains counted before after

variable {middle : Screen} {lost gone : List Occurrence}

theorem Redraws.hears (redraws : Redraws counted start stop) : Hears counted [] start stop where
  events := redraws.events.symm
  full := by
    rw [redraws.full]
    exact (Option.map_id_apply).symm
  contains := fun _ => redraws.contains

theorem Hears.trans (before : Hears counted lost start middle)
    (after : Hears counted gone middle stop) : Hears counted (lost ++ gone) start stop where
  events := by
    rw [before.events, after.events, List.append_assoc]
  full := by
    rw [after.full, before.full, Option.map_map]
    congr 1
    funext size
    exact List.foldl_append.symm
  contains := by
    intro spared contained
    apply after.contains
    · intro counts size full
      rw [before.full] at full
      rcases Option.map_eq_some_iff.mp full with ⟨first, wasFull, rfl⟩
      exact ((grows_append first lost gone).mp (spared counts first wasFull)).2
    · apply before.contains _ contained
      intro counts size full
      exact ((grows_append size lost gone).mp (spared counts size full)).1

theorem takeIn_redraws (codes : List Code) : Leaves (Redraws counted) (takeIn window codes) := by
  have queued : Leaves (Redraws counted) (modify fun screen : Screen =>
      { screen with queue := screen.queue.accept screen.cbreak codes }) :=
    Leaves.modify fun _ => ⟨id, rfl, rfl⟩
  apply Leaves.get_bind
  intro screen
  cases screen.echo with
  | false => exact queued
  | true =>
      apply (Leaves.forM putCell_redraws _).bind
      intro _
      exact (Leaves.flush redraws_output).bind fun _ => queued

theorem setEvents_hears {occurrence : Occurrence} {rest : List Occurrence}
    (events : start.device.events = occurrence :: rest)
    (quiet : ∀ size, occurrence.resized size = size) :
    Hears counted [occurrence] start { start with device.events := rest } := by
  refine ⟨events, ?_, fun _ => contains_of_panes rfl⟩
  have still : [occurrence].foldl Occurrence.resized = id := funext quiet
  rw [still, Option.map_id]
  rfl

theorem codesOf_hears (keypad : Bool) (heard : Event) {rest : List Occurrence}
    (events : start.device.events = .event heard :: rest) :
    Ends (codesOf keypad heard) { start with device.events := rest }
      (fun _ stop => Hears counted [.event heard] start stop) (fun _ _ => False) := by
  cases heard with
  | key press released => exact setEvents_hears events fun _ => rfl
  | other => exact setEvents_hears events fun _ => rfl
  | resize size =>
      rw [codesOf, ends_bind, ends_modify, ends_pure]
      cases found : start.panes.get? 0 with
      | none =>
          refine ⟨events, ?_, fun _ => contains_of_panes rfl⟩
          simp only [fullSize?, found, Option.map_none]
      | some full =>
          refine ⟨events, ?_, ?_⟩
          · simp only [fullSize?, Panes.get?_set found, found]
            rfl
          · intro spared contained
            apply contained_set contained found
            intro counts
            have grown := spared counts full.size (congrArg (Option.map Pane.size) found)
            exact (contained 0 full counts found).grow grown.1

theorem event_hears (keypad : Bool) (heard : Event) {rest : List Occurrence}
    (events : start.device.events = .event heard :: rest) :
    Ends (do
        setEvents rest
        takeIn window (← codesOf keypad heard)) start
      (fun _ stop => Hears counted [.event heard] start stop)
      (fun _ stop => Hears counted [.event heard] start stop) := by
  rw [ends_bind, setEvents, ends_modify, ends_bind]
  apply (codesOf_hears keypad heard events).mono
  · intro codes middle known
    exact (takeIn_redraws codes middle).imp fun _ redraws => known.trans redraws.hears
  · intro _ _ never
    exact never.elim

def Attends (counted : Handle → Prop) (before after : Screen) : Prop :=
  ∃ lost, Hears counted lost before after

theorem Hears.attends (before : Hears counted lost start middle)
    (after : Attends counted middle stop) : Attends counted start stop := by
  rcases after with ⟨gone, after⟩
  exact ⟨lost ++ gone, before.trans after⟩

theorem awaitCode_attends (flags : Pane) (events : List Occurrence)
    (same : start.device.events = events) :
    Ends (awaitCode window flags events) start (fun _ stop => Attends counted start stop)
      (fun _ stop => Attends counted start stop) := by
  induction events generalizing start with
  | nil => exact ⟨[], Redraws.hears (Std.Refl.refl start)⟩
  | cons occurrence rest induction =>
      cases occurrence with
      | failure =>
          have heard : Hears counted [.failure] start { start with device.events := rest } :=
            setEvents_hears same fun _ => rfl
          exact ⟨_, heard⟩
      | idle =>
          have heard : Hears counted [.idle] start { start with device.events := rest } :=
            setEvents_hears same fun _ => rfl
          rw [awaitCode, ends_bind, setEvents, ends_modify]
          split
          · exact ⟨_, heard⟩
          · exact (induction rfl).imp fun _ => heard.attends
      | event event =>
          rw [awaitCode_event, ends_bind]
          apply (event_hears flags.keypad event same).mono
          · intro _ middle (heard : Hears counted [.event event] start middle)
            have remaining : middle.device.events = rest :=
              (List.cons.inj (heard.events.symm.trans same)).2
            rw [ends_bind]
            apply ends_takeCode
            · intro _
              exact (induction remaining).imp fun _ => heard.attends
            · intro code ready _
              exact heard.attends ⟨[], Redraws.hears ⟨id, rfl, rfl⟩⟩
          · intro _ _ heard
            exact ⟨_, heard⟩

theorem readCode_attends :
    Ends (readCode window) start (fun _ stop => Attends counted start stop)
      (fun _ stop => Attends counted start stop) := by
  apply ends_pane_bind
  · exact ⟨[], Redraws.hears (Std.Refl.refl start)⟩
  · intro pane _
    rw [ends_bind]
    apply ends_takeCode
    · intro _
      rw [ends_bind, ends_get]
      exact awaitCode_attends pane _ rfl
    · intro code ready _
      exact ⟨[], Redraws.hears ⟨id, rfl, rfl⟩⟩

/-! ## Every screen there can be -/

/-- Cursors stay inside whatever is called, as long as the full screen gets no smaller. -/
theorem perform_contains (call : Call) (screen : Screen)
    (spared : Spares counted screen (consumed screen (perform call screen).terminal)) :
    Contains counted screen (perform call screen).terminal := by
  by_cases reads : ∃ window, call = .readInput window
  · rcases reads with ⟨window, rfl⟩
    have attends : Attends counted screen (perform (.readInput window) screen).terminal := by
      apply perform_rule (motive := fun reply => Attends counted screen reply.terminal)
      exact readCode_attends
    rcases attends with ⟨lost, hears⟩
    rw [consumed_eq hears.events] at spared
    exact hears.contains spared
  · have deaf : ∀ window, call ≠ .readInput window := fun window same => reads ⟨window, same⟩
    apply perform_rule (motive := fun reply => Contains counted screen reply.terminal)
    exact answer_contains deaf screen

inductive Operated (allowed : Call → Screen → Prop) : Screen → Prop
  | opened {screen : Screen} (opens : (perform .openSession screen).answer.isOk = true) :
      Operated allowed (perform .openSession screen).terminal
  | call {screen : Screen} (operated : Operated allowed screen) (called : Call)
      (fits : allowed called screen) : Operated allowed (perform called screen).terminal
  | rewire {screen : Screen} (operated : Operated allowed screen) (device : Device) :
      Operated allowed { screen with device }

/-- What the call hears does not make the window smaller. Only the full screen can get smaller. -/
def KeepsCells (window : Handle) (call : Call) (screen : Screen) : Prop :=
  window = 0 → ∀ full, screen.panes.get? 0 = some full →
    Grows full.size (consumed screen (perform call screen).terminal)

theorem Operated.contained {allowed : Call → Screen → Prop} {screen : Screen}
    (operated : Operated allowed screen)
    (spared : ∀ call screen, allowed call screen →
      Spares counted screen (consumed screen (perform call screen).terminal)) :
    Contained counted screen := by
  induction operated with
  | opened opens =>
      revert opens
      apply perform_rule (motive := fun reply =>
        reply.answer.isOk = true → Contained counted reply.terminal)
      apply Ends.mono openSession_contained
      · intro _ _ contained _
        exact contained
      · intro _ _ _ opens
        cases opens
  | call operated called fits induction =>
      exact perform_contains called _ (spared called _ fits) induction
  | rewire operated device induction => exact induction

/-- The cursor of every window is on a cell of it, whatever is called and whatever of it fails. Only
the cursor of the full screen can get outside, and only when the terminal gets smaller. -/
theorem cursors_stay_inside {screen : Screen} {window : Handle} {pane : Pane}
    (operated : Operated (KeepsCells window) screen)
    (found : screen.panes.get? window = some pane) : pane.Inside := by
  have contained : Contained (· = window) screen := by
    apply operated.contained
    intro call before kept same size full
    rcases Option.map_eq_some_iff.mp full with ⟨pane, there, rfl⟩
    exact kept same.symm pane there
  exact contained window pane rfl found

/-- When the terminal gets larger, the cursor may stay where it was. -/
theorem growing_leaves_cursor_inside :
    let opened := (perform .openSession (headless {} ⟨4, 4⟩)).terminal
    let moved := (perform (.moveCursor 0 ⟨3, 3⟩) opened).terminal
    let wired := { moved with device := { events := [.event (.resize ⟨8, 8⟩)] } }
    let grown := (perform (.readInput 0) wired).terminal
    Operated (KeepsCells 0) grown ∧
      ∃ pane, grown.panes.get? 0 = some pane ∧ pane.size = ⟨8, 8⟩ ∧ pane.Inside := by
  intro opened moved wired grown
  have still : KeepsCells 0 (.moveCursor 0 ⟨3, 3⟩) opened := fun _ _ _ => trivial
  have heard : consumed wired grown = [.event (.resize ⟨8, 8⟩)] := consumed_eq rfl
  have grows : KeepsCells 0 (.readInput 0) wired := by
    intro _ full found
    cases found
    exact heard ▸ ⟨⟨by decide, by decide⟩, trivial⟩
  have started : Operated (KeepsCells 0) opened := .opened rfl
  have kept : Operated (KeepsCells 0) wired := (started.call (.moveCursor 0 ⟨3, 3⟩) still).rewire _
  have operated : Operated (KeepsCells 0) grown := kept.call (.readInput 0) grows
  have found : grown.panes.get? 0 = some { origin := .origin, size := ⟨8, 8⟩, cursor := ⟨3, 3⟩ } :=
    rfl
  exact ⟨operated, _, found, rfl, cursors_stay_inside operated found⟩

/-! No window is as wide as a coordinate can tell, neither before the call nor after it. -/

def StaysNarrow (call : Call) (screen : Screen) : Prop :=
  ∀ entry ∈ screen.panes.live ++ (perform call screen).terminal.panes.live,
    entry.2.size.cols < 65535

instance (call : Call) (screen : Screen) : Decidable (StaysNarrow call screen) :=
  inferInstanceAs (Decidable (∀ entry ∈ _, _))

/-- When the terminal gets smaller, the cursor of the full screen stays where it was. -/
theorem shrinking_leaves_cursor_outside :
    ¬ ∀ screen, Operated StaysNarrow screen → ∀ window pane,
      screen.panes.get? window = some pane → pane.Inside := by
  intro always
  have opened : Operated StaysNarrow (perform .openSession (headless {} ⟨4, 4⟩)).terminal :=
    .opened rfl
  have moved := opened.call (.moveCursor 0 ⟨3, 3⟩) (by decide)
  have wired := moved.rewire { events := [.event (.resize ⟨2, 2⟩)] }
  have shrunk := wired.call (.readInput 0) (by decide)
  have inside := always _ shrunk 0 _ rfl
  exact absurd inside.row (by decide)

end Screen

end TerminalSession
