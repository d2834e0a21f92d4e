import TerminalSession.Proofs.AskedCalls
import TerminalSession.Proofs.LiveHandles

/-! # What an action leaves of the other windows

The calls of an action are about the current window, or about none. Only a new window makes calls
about a window of its own, and if it cannot be prepared it is gone again. So all other windows stay
as they are, in the terminal and in the bindings. A read is a case apart, because a terminal may
hear of other things than what was typed in the window. -/

namespace TerminalSession

namespace Panes

def Spares (window : Handle) (before after : Panes) : Prop :=
  ∀ other ≠ window, after.get? other = before.get? other

def SparesUpTo (found : Handle → Pane → Pane) (window : Handle) (before after : Panes) : Prop :=
  ∀ other ≠ window, after.get? other = (before.get? other).map (found other)

variable {window : Handle} {before middle after : Panes}

theorem Spares.refl (window : Handle) (panes : Panes) : Spares window panes panes := fun _ _ => rfl

theorem Spares.trans (first : Spares window before middle) (second : Spares window middle after) :
    Spares window before after :=
  fun other different => (second other different).trans (first other different)

theorem Spares.upTo {found : Handle → Pane → Pane} (spares : Spares window before after)
    (same : ∀ other pane, found other pane = pane) : SparesUpTo found window before after := by
  intro other different
  rw [spares other different, show found other = id from funext (same other), Option.map_id_apply]

theorem spares_set (panes : Panes) (window : Handle) (pane : Pane) :
    Spares window panes (panes.set window pane) :=
  fun _ different => panes.get?_set_of_ne different pane

theorem spares_remove (panes : Panes) (window : Handle) :
    Spares window panes (panes.remove window) := by
  intro other different
  rw [get?_remove, if_neg different]

theorem spares_add (panes : Panes) (pane : Pane) : Spares panes.next panes (panes.add pane) := by
  intro other different
  rw [get?_add, if_neg different]

end Panes

/-- A call inside a session that is about this window or about none, and neither makes windows nor
listens. -/
def Call.StaysWithin (window : Handle) : Call → Prop
  | .openSession | .closeSession | .createWindow .. | .readInput _ => False
  | call => ∀ other, call.window? = some other → other = window

/-! A terminal whose windows are known, and what a read from one of them makes of the others. -/

class PaneTerminal (τ : Type) [Terminal τ] [NativeTerminal τ] where
  panes : τ → Panes
  flags_panes (terminal : τ) : (NativeTerminal.native terminal).flags = (panes terminal).flags
  spares {call : Call} {window : Handle} (within : call.StaysWithin window) (before : τ) :
    (panes before).Spares window (panes (Terminal.perform call before).terminal)
  created {size : Size} {position : Position} {window : Handle} {before after : τ}
    {notes : List Log.Entry}
    (reply : Terminal.perform (.createWindow size position) before = ⟨.ok window, after, notes⟩) :
    (panes before).Spares window (panes after)
  uncreated {size : Size} {position : Position} {fault : Fault} {before after : τ}
    {notes : List Log.Entry}
    (reply : Terminal.perform (.createWindow size position) before = ⟨.error fault, after, notes⟩) :
    panes after = panes before
  found (before after : τ) (window : Handle) (pane : Pane) : Pane
  found_self (terminal : τ) (window : Handle) (pane : Pane) :
    found terminal terminal window pane = pane
  reads (window : Handle) (before : τ) :
    Panes.SparesUpTo (found before (Terminal.perform (.readInput window) before).terminal) window
      (panes before) (panes (Terminal.perform (.readInput window) before).terminal)

def SparesOthers {τ : Type} [Terminal τ] [NativeTerminal τ] [PaneTerminal τ] (window : Handle)
    (before after : τ) : Prop :=
  Panes.SparesUpTo (PaneTerminal.found before after) window (PaneTerminal.panes before)
    (PaneTerminal.panes after)

/-! ## Calls -/

section

variable {τ : Type} [Terminal τ] [NativeTerminal τ] [PaneTerminal τ]

open PaneTerminal NativeTerminal

theorem AskedOnly.spares {window : Handle} {start stop : Logged τ}
    (asked : AskedOnly (Call.StaysWithin window) start stop) :
    (panes start.terminal).Spares window (panes stop.terminal) := by
  apply asked.preserves (motive := fun terminal =>
    (panes start.terminal).Spares window (panes terminal)) (.refl window _)
  intro called terminal within spared
  exact spared.trans (PaneTerminal.spares within terminal)

theorem get?_eq_none_iff (terminal : τ) (window : Handle) :
    (panes terminal).get? window = none ↔ (native terminal).flags window = none := by
  rw [flags_panes, Panes.flags_eq_none_iff]

end

namespace Action

def isRead : Action → Bool
  | getInput | readAs _ => true
  | _ => false

def addsWindow : Action → Bool
  | addWindow .. => true
  | _ => false

end Action

namespace Machine

open Exchange PaneTerminal NativeTerminal

variable {τ : Type} [Terminal τ] {session : Session} {bindings : Bindings}

theorem perform_staysWithin {action : Action} (deaf : action.isRead = false)
    (modest : action.addsWindow = false) :
    AsksOnly (Call.StaysWithin bindings.handle)
      (perform session bindings action : Exchange τ (Outcome × Bindings)) := by
  cases action with
  | addWindow name position size border => cases modest
  | getInput => cases deaf
  | readAs shape => cases deaf
  | setWindow name => exact .accept_bind fun _ _ => .pure _
  | unsetWindow => exact .accept_bind fun _ _ => .pure _
  | addColor name foreground background =>
      refine .bind ?_ fun _ => .pure _
      have allocated : AsksOnly (Call.StaysWithin bindings.handle) (do
          let pair ← call (.allocatePair foreground background)
          note .debug .machine ("Color '" ++ name ++ "' bound to pair " ++ toString pair)
          return pair : Exchange τ ColorPair) :=
        .bind (.call nofun) fun pair => .bind (.note _ _ _) fun _ => .pure pair
      unfold allocateColor
      split
      · exact .bind (.call nofun) fun _ => allocated
      · exact allocated
  | changeAttribute operation look =>
      apply AsksOnly.accept_bind
      intro native _
      exact .bind (.call (by simp [Call.StaysWithin, Call.window?])) fun _ => .pure _
  | draw drawing =>
      refine .bind ?_ fun _ => .pure _
      cases drawing with
      | line text =>
          exact .bind (.call (by simp [Call.StaysWithin, Call.window?])) fun _ =>
            .call (by simp [Call.StaysWithin, Call.window?])
      | _ => exact .call (by simp [Call.StaysWithin, Call.window?])
  | require requirement => exact .pure _
  | _ => exact .bind (.call (by simp [Call.StaysWithin, Call.window?])) fun _ => .pure _

variable [NativeTerminal τ] [PaneTerminal τ] {host : Logged τ}

theorem createWindow_spares (name : String) (position : Position) (size : Size)
    (border : Option ResolvedBorder) :
    Ends (createWindow name position size border) host
      (fun window stop => (panes host.terminal).Spares window (panes stop.terminal))
      (fun _ stop => ∃ window, (native host.terminal).flags window = none ∧
        (panes host.terminal).Spares window (panes stop.terminal)) := by
  rw [createWindow, ends_bind]
  apply ends_call
  · intro window terminal notes log reply
    have made := created reply
    have unused := flags_created reply
    have prepared : AsksOnly (Call.StaysWithin window)
        (prepareWindow window border : Exchange τ Unit) :=
      prepareWindow_asksOnly (by simp [Call.StaysWithin, Call.window?])
        (by simp [Call.StaysWithin, Call.window?])
    have undone : ∀ failure : Failure, AsksOnly (Call.StaysWithin window) (do
        try
          call (.destroyWindow window)
        catch cleanup =>
          note .warn .machine ("Failed to destroy window '" ++ name ++ "': " ++ cleanup.message)
        throw failure : Exchange τ Unit) := fun failure =>
      .bind (.tryCatch (.call (by simp [Call.StaysWithin, Call.window?])) fun _ => .note _ _ _)
        fun _ => .throw failure
    rw [ends_bind]
    apply ((prepared.tryCatch undone) ⟨terminal, log⟩).mono
    · intro _ stop asked
      exact made.trans asked.spares
    · intro _ stop asked
      exact ⟨window, unused, made.trans asked.spares⟩
  · intro fault terminal notes log reply
    refine ⟨(panes host.terminal).next, ?_, ?_⟩
    · rw [flags_panes, Panes.flags_next]
    · rw [uncreated reply]
      exact .refl _ _

/-- A window that was made is new and there. A window that could not be made is not. -/
theorem createWindow_outcome (name : String) (position : Position) (size : Size)
    (border : Option ResolvedBorder) :
    Ends (createWindow name position size border) host
      (fun window stop => (panes host.terminal).get? window = none ∧
        ((panes stop.terminal).get? window).isSome ∧
        (panes host.terminal).Spares window (panes stop.terminal))
      (fun _ stop => ∀ other,
        (panes stop.terminal).get? other = (panes host.terminal).get? other) := by
  have outcome : Ends (createWindow name position size border) host
      (fun window stop => (native host.terminal).flags window = none ∧
        native stop.terminal = (native host.terminal).setFlags window (some ⟨true, false⟩))
      (Harmless (native host.terminal)) := by
    apply createWindow_native rfl
    intro window stop unused made
    exact ⟨unused, made⟩
  apply (outcome.and (createWindow_spares name position size border)).mono
  · rintro window stop ⟨⟨unused, made⟩, spared⟩
    refine ⟨(get?_eq_none_iff _ _).mpr unused, ?_, spared⟩
    rw [Option.isSome_iff_ne_none, Ne, get?_eq_none_iff, made, Native.flags_setFlags]
    exact nofun
  · rintro failure stop ⟨⟨same, _⟩, window, unused, spared⟩ other
    -- The frame says nothing of the window that was taken back. Before and after, it was not there.
    by_cases made : other = window
    · subst made
      rw [(get?_eq_none_iff _ _).mpr unused, get?_eq_none_iff, same, unused]
    · exact spared other made

/-! ## Actions

Actions that neither read nor make a window make calls about the current window only. In the
bindings all entries but that of the current window stay as they were, and that one keeps its border
and its handle. -/

def KeepsEntries (before after : Bindings) : Prop :=
  ∃ window, after.windows.toList =
    before.windows.newer ++ { before.current with window } :: before.windows.older

/-- What an action that succeeded or failed did to the windows other than the current one, in the
terminal and in the bindings. -/
inductive Touches (found : Handle → Pane → Pane) (before after : Panes) (bindings now : Bindings) :
    Action → Bool → Prop
  | adds (name : String) (position : Position) (size : Size) (border : Option Border)
      (window : Handle) (drawn : Option ResolvedBorder) (unused : before.get? window = none)
      (there : (after.get? window).isSome) (spared : before.Spares window after)
      (entries : now.windows.toList =
        { window := { name }, border := drawn, handle := window } :: bindings.windows.toList) :
      Touches found before after bindings now (.addWindow name position size border) true
  | reads {action : Action} {succeeded : Bool} (listens : action.isRead = true)
      (spared : Panes.SparesUpTo found bindings.handle before after)
      (entries : KeepsEntries bindings now) :
      Touches found before after bindings now action succeeded
  | keeps {action : Action} {succeeded : Bool} (deaf : action.isRead = false)
      (modest : (action.addsWindow && succeeded) = false)
      (spared : before.Spares bindings.handle after) (entries : KeepsEntries bindings now) :
      Touches found before after bindings now action succeeded

omit [Terminal τ] [NativeTerminal τ] [PaneTerminal τ] in
theorem KeepsEntries.refl (bindings : Bindings) : KeepsEntries bindings bindings :=
  ⟨bindings.current.window, rfl⟩

omit [Terminal τ] [NativeTerminal τ] [PaneTerminal τ] in
theorem answer_entries {α : Type} (work : Exchange τ α) (answer : α → Outcome × Bindings)
    (entries : ∀ value, KeepsEntries bindings (answer value).2) :
    Ends (work >>= fun value => pure (answer value)) host
      (fun given _ => KeepsEntries bindings given.2) (fun _ _ => True) := by
  rw [ends_bind]
  apply (ends_true work host).mono
  · intro value _ _
    exact entries value
  · intro _ _ _
    trivial

omit [NativeTerminal τ] [PaneTerminal τ] in
theorem perform_entries (session : Session) (bindings : Bindings) {action : Action}
    (modest : action.addsWindow = false) :
    Ends (perform session bindings action) host (fun answer _ => KeepsEntries bindings answer.2)
      (fun _ _ => True) := by
  have moved : ∀ name, Ends (perform session bindings (.setWindow name)) host
      (fun answer _ => KeepsEntries bindings answer.2) (fun _ _ => True) := by
    intro name
    simp only [perform, ends_bind, ends_accept, ends_pure]
    split
    · rename_i after selected
      refine ⟨bindings.current.window, ?_⟩
      rw [Bindings.toList_setWindow selected]
      rfl
    · trivial
  have unchanged : KeepsEntries bindings bindings := .refl bindings
  cases action with
  | addWindow name position size border => cases modest
  | setWindow name => exact moved name
  | unsetWindow => exact moved Window.defaultName
  | changeAttribute operation look =>
      simp only [perform]
      rw [ends_bind, ends_accept]
      split
      · exact answer_entries _ _ fun _ => unchanged
      · trivial
  | addColor name foreground background =>
      exact answer_entries _ _ fun _ => ⟨bindings.current.window, rfl⟩
  | setKeypad on => exact answer_entries _ _ fun _ => ⟨_, rfl⟩
  | setNoDelay on => exact answer_entries _ _ fun _ => ⟨_, rfl⟩
  | require requirement => exact unchanged
  | _ => exact answer_entries _ _ fun _ => unchanged

def TouchesOnly (host : Logged τ) (bindings : Bindings) (action : Action)
    (work : Exchange τ (Outcome × Bindings)) : Prop :=
  Ends work host
    (fun answer stop => Touches (found host.terminal stop.terminal) (panes host.terminal)
      (panes stop.terminal) bindings answer.2 action true)
    (fun _ stop => Touches (found host.terminal stop.terminal) (panes host.terminal)
      (panes stop.terminal) bindings bindings action false)

theorem addWindow_touches (name : String) (position : Position) (size : Size)
    (border : Option Border) :
    TouchesOnly host bindings (.addWindow name position size border)
      (perform session bindings (.addWindow name position size border)) := by
  have made : ∀ resolved, TouchesOnly host bindings (.addWindow name position size border) (do
      let window ← createWindow name position size resolved
      return (.unit, bindings.addWindow name resolved window)) := by
    intro resolved
    rw [TouchesOnly, ends_bind]
    apply (createWindow_outcome name position size resolved).mono
    · rintro window stop ⟨unused, there, spared⟩
      refine .adds name position size border window resolved unused there spared ?_
      exact Focus.toList_push _ _
    · intro failure stop same
      exact .keeps rfl rfl (fun other _ => same other) (.refl bindings)
  cases border with
  | none => exact made none
  | some border =>
      simp only [perform, Option.mapM_some, map_eq_pure_bind, bind_assoc, pure_bind]
      rw [TouchesOnly, ends_bind, ends_accept]
      split
      · rename_i resolved _
        exact made (some resolved)
      · exact .keeps rfl rfl (.refl _ _) (.refl bindings)

theorem readCurrent_spares :
    Ends (readCurrent bindings) host
      (fun _ stop => SparesOthers bindings.handle host.terminal stop.terminal)
      (fun _ stop => SparesOthers bindings.handle host.terminal stop.terminal) := by
  have listened := PaneTerminal.reads bindings.handle host.terminal
  rw [readCurrent, ends_bind]
  apply ends_call
  · intro delivered terminal notes log reply
    rw [reply] at listened
    split
    · exact listened
    · exact listened
  · intro fault terminal notes log reply
    rw [reply] at listened
    exact listened

theorem read_touches {action : Action} (listens : action.isRead = true)
    (modest : action.addsWindow = false) :
    TouchesOnly host bindings action (perform session bindings action) := by
  have heard : Ends (perform session bindings action) host
      (fun _ stop => SparesOthers bindings.handle host.terminal stop.terminal)
      (fun _ stop => SparesOthers bindings.handle host.terminal stop.terminal) := by
    cases action with
    | getInput =>
        rw [perform, ends_bind]
        exact readCurrent_spares
    | readAs shape =>
        rw [perform, ends_bind]
        exact readCurrent_spares
    | _ => cases listens
  apply (heard.and (perform_entries session bindings modest)).mono
  · rintro answer stop ⟨spared, kept⟩
    exact .reads listens spared kept
  · rintro failure stop ⟨spared, _⟩
    exact .reads listens spared (.refl bindings)

theorem deaf_touches {action : Action} (deaf : action.isRead = false)
    (modest : action.addsWindow = false) :
    TouchesOnly host bindings action (perform session bindings action) := by
  have within : AsksOnly (Call.StaysWithin bindings.handle)
      (perform session bindings action : Exchange τ (Outcome × Bindings)) :=
    perform_staysWithin deaf modest
  apply ((within host).and (perform_entries session bindings modest)).mono
  · rintro answer stop ⟨asked, kept⟩
    exact .keeps deaf (by rw [modest]; rfl) asked.spares kept
  · rintro failure stop ⟨asked, _⟩
    exact .keeps deaf (by rw [modest]; rfl) asked.spares (.refl bindings)

theorem perform_touches (session : Session) (bindings : Bindings) (action : Action) :
    TouchesOnly host bindings action (perform session bindings action) := by
  cases adds : action.addsWindow with
  | true =>
      cases action with
      | addWindow name position size border => exact addWindow_touches name position size border
      | _ => cases adds
  | false =>
      cases listens : action.isRead with
      | true => exact read_touches listens adds
      | false => exact deaf_touches listens adds

theorem touches_self (terminal : τ) (bindings : Bindings) (action : Action) :
    Touches (found terminal terminal) (panes terminal) (panes terminal) bindings bindings action
      false := by
  cases listens : action.isRead with
  | true =>
      have spared := (Panes.Spares.refl bindings.handle (panes terminal)).upTo (found_self terminal)
      exact .reads listens spared (.refl bindings)
  | false => exact .keeps listens (Bool.and_false _) (.refl _ _) (.refl bindings)

/-- However an action of a running session ends, it leaves the windows other than the current one
alone. -/
theorem execute_touches {machine : Machine τ} (running : machine.phase = .active session)
    (bound : machine.bindings = some bindings) (action : Action) :
    let next := (machine.execute (.act action)).2
    ∃ now, next.bindings = some now ∧ Touches (found machine.terminal next.terminal)
      (panes machine.terminal) (panes next.terminal) bindings now action
      (machine.execute (.act action)).1.isOk := by
  apply execute_rule (motive := fun result => ∃ now, result.2.bindings = some now ∧
    Touches (found machine.terminal result.2.terminal) (panes machine.terminal)
      (panes result.2.terminal) bindings now action result.1.isOk)
  · intro refusal _
    exact ⟨bindings, bound, touches_self machine.terminal bindings action⟩
  · intro next log _
    simp only [dispatch, running, bound, ends_bind]
    apply (perform_touches session bindings action).mono
    · intro answer stop touched
      exact ⟨answer.2, rfl, touched⟩
    · intro failure stop touched
      exact ⟨bindings, rfl, touched⟩

end Machine

end TerminalSession
