import TerminalSession.Proofs.Diary
import TerminalSession.Proofs.Rebinding

/-! # What actions do to colors, windows and borders

An action that succeeds makes the calls that it stands for, and adds to the bindings what came of
them. All but two actions leave colors, windows and borders alone. -/

namespace TerminalSession

section

variable {τ : Type} [Terminal τ] {bindings : Bindings} {host : Logged τ}

def colorCalls (bindings : Bindings) (foreground background : Color)
    (answer : Except Fault ColorPair) : List Asked :=
  ⟨.allocatePair foreground background, answer⟩ ::
    if bindings.colors.isEmpty then [⟨.startColor, .ok ()⟩] else []

inductive ColorFailed (bindings : Bindings) (foreground background : Color) : List Asked → Prop
  | unstarted (empty : bindings.colors = []) (fault : Fault) :
      ColorFailed bindings foreground background [⟨.startColor, .error fault⟩]
  | unallocated (fault : Fault) :
      ColorFailed bindings foreground background
        (colorCalls bindings foreground background (.error fault))

/-- What an action that succeeded made of the bindings, and the calls it did so by. -/
inductive Completes (bindings : Bindings) : Action → List Asked → Bindings → Prop
  | addWindow {name : String} {position : Position} {size : Size} {border : Option Border}
      {resolved : Option ResolvedBorder} {window : Handle} {made : List Asked}
      (found : border.mapM bindings.resolveBorder = .ok resolved)
      (created : made.findSome? Asked.window? = some window)
      (drawn : ∀ border, resolved = some border → ⟨.drawBorder window border, .ok ()⟩ ∈ made) :
      Completes bindings (.addWindow name position size border) made
        (bindings.addWindow name resolved window)
  | addColor {name : String} {foreground background : Color} {pair : ColorPair} :
      Completes bindings (.addColor name foreground background)
        (colorCalls bindings foreground background (.ok pair)) (bindings.addColor name pair)
  | changeAttribute {operation : AttributeOperation} {look : Attribute}
      {native : NativeAttribute} :
      Completes bindings (.changeAttribute operation look)
        [⟨.applyAttribute bindings.handle native operation, .ok ()⟩] bindings
  | other {action : Action} {made : List Asked} {after : Bindings}
      (noWindow : ∀ name position size border, action ≠ .addWindow name position size border)
      (noColor : ∀ name foreground background, action ≠ .addColor name foreground background)
      (noLook : ∀ operation look, action ≠ .changeAttribute operation look)
      (colors : after.colors = bindings.colors) (records : after.records = bindings.records) :
      Completes bindings action made after

namespace Machine

open Exchange

theorem allocateColor_made (name : String) (foreground background : Color) :
    Ends (allocateColor bindings name foreground background) host
      (fun pair stop => Asks host.terminal
        (colorCalls bindings foreground background (.ok pair)) stop.terminal)
      (fun _ stop => ∃ made, Asks host.terminal made stop.terminal ∧
        ColorFailed bindings foreground background made) := by
  have allocated : ∀ (opening : List Asked) (middle : Logged τ),
      Asks host.terminal opening middle.terminal →
      opening = (if bindings.colors.isEmpty then [⟨.startColor, .ok ()⟩] else []) →
      Ends (do
          let pair ← call (.allocatePair foreground background)
          note .debug .machine ("Color '" ++ name ++ "' bound to pair " ++ toString pair)
          return pair : Exchange τ ColorPair) middle
        (fun pair stop => Asks host.terminal
          (colorCalls bindings foreground background (.ok pair)) stop.terminal)
        (fun _ stop => ∃ made, Asks host.terminal made stop.terminal ∧
          ColorFailed bindings foreground background made) := by
    intro opening middle before shape
    simp only [ends_bind, ends_note, ends_pure, colorCalls, ← shape]
    apply ends_call
    · intro pair terminal notes log replied
      exact before.reply replied
    · intro fault terminal notes log replied
      refine ⟨_, before.reply replied, ?_⟩
      rw [shape]
      exact .unallocated fault
  unfold allocateColor
  cases empty : bindings.colors with
  | nil =>
      simp only [List.isEmpty_nil, if_true, ends_bind]
      apply ends_call
      · intro _ terminal notes log replied
        have opened := Asks.nil.reply replied
        have rest := allocated _ ⟨terminal, log⟩ opened (by rw [empty]; rfl)
        simp only [ends_bind] at rest
        exact rest
      · intro fault terminal notes log replied
        exact ⟨_, Asks.nil.reply replied, .unstarted empty fault⟩
  | cons first rest =>
      exact allocated [] host .nil (by rw [empty]; rfl)

theorem prepareWindow_made (window : Handle) (border : Option ResolvedBorder) :
    Ends (prepareWindow window border) host
      (fun _ stop => ∃ made, Asks host.terminal made stop.terminal ∧
        made.findSome? Asked.window? = none ∧
        ∀ drawn, border = some drawn → ⟨.drawBorder window drawn, .ok ()⟩ ∈ made)
      (fun _ _ => True) := by
  simp only [prepareWindow, ends_bind]
  apply ends_answered .nil
  intro _ terminal log keypad
  apply ends_answered keypad
  intro _ terminal log noDelay
  cases border with
  | none =>
      refine ⟨_, noDelay, rfl, ?_⟩
      intro drawn same
      cases same
  | some border =>
      apply ends_answered noDelay
      intro _ terminal log drawn
      refine ⟨_, drawn, rfl, ?_⟩
      rintro _ ⟨⟩
      exact List.mem_cons_self

theorem createWindow_made (name : String) (position : Position) (size : Size)
    (border : Option ResolvedBorder) :
    Ends (createWindow name position size border) host
      (fun window stop => ∃ made, Asks host.terminal made stop.terminal ∧
        made.findSome? Asked.window? = some window ∧
        ∀ drawn, border = some drawn → ⟨.drawBorder window drawn, .ok ()⟩ ∈ made)
      (fun _ _ => True) := by
  simp only [createWindow, ends_bind]
  apply ends_answered .nil
  intro window terminal log created
  rw [ends_tryCatch]
  apply (prepareWindow_made window border).mono
  · rintro _ stop ⟨made, asks, noWindow, drawn⟩
    refine ⟨_, created.append asks, ?_, ?_⟩
    · rw [List.findSome?_append, noWindow]
      rfl
    · intro border same
      exact List.mem_append_left _ (drawn border same)
  -- once the window is given back, the failure goes on
  · intro failure stop _
    rw [ends_bind]
    exact ends_true _ stop

theorem addWindow_completes (session : Session) (name : String) (position : Position)
    (size : Size) (border : Option Border) :
    Ends (perform session bindings (.addWindow name position size border)) host
      (fun result stop => ∃ made, Asks host.terminal made stop.terminal ∧
        Completes bindings (.addWindow name position size border) made result.2)
      (fun _ _ => True) := by
  have created : ∀ resolved, border.mapM bindings.resolveBorder = .ok resolved →
      Ends (do
          let window ← createWindow name position size resolved
          return (.unit, bindings.addWindow name resolved window) :
            Exchange τ (Outcome × Bindings)) host
        (fun result stop => ∃ made, Asks host.terminal made stop.terminal ∧
          Completes bindings (.addWindow name position size border) made result.2)
        (fun _ _ => True) := by
    intro resolved found
    rw [ends_bind]
    apply (createWindow_made name position size resolved).mono
    · rintro window stop ⟨made, asks, created, drawn⟩
      exact ⟨made, asks, .addWindow found created drawn⟩
    · intros
      trivial
  cases border with
  | none => exact created none rfl
  | some border =>
      simp only [perform, Option.mapM_some, map_eq_pure_bind, bind_assoc, pure_bind]
      cases found : bindings.resolveBorder border with
      | error refusal => trivial
      | ok drawn =>
          apply created
          rw [Option.mapM_some, found]
          rfl

theorem addColor_completes (session : Session) (name : String) (foreground background : Color) :
    Ends (perform session bindings (.addColor name foreground background)) host
      (fun result stop => ∃ made, Asks host.terminal made stop.terminal ∧
        Completes bindings (.addColor name foreground background) made result.2)
      (fun _ stop => ∃ made, Asks host.terminal made stop.terminal ∧
        ColorFailed bindings foreground background made) := by
  simp only [perform, ends_bind, ends_pure]
  apply (allocateColor_made name foreground background).mono
  · intro pair stop asks
    exact ⟨_, asks, .addColor⟩
  · intro _ stop failed
    exact failed

theorem changeAttribute_completes (session : Session) (operation : AttributeOperation)
    (look : Attribute) :
    Ends (perform session bindings (.changeAttribute operation look)) host
      (fun result stop => ∃ made, Asks host.terminal made stop.terminal ∧
        Completes bindings (.changeAttribute operation look) made result.2)
      (fun _ _ => True) := by
  simp only [perform, ends_bind, ends_accept, ends_pure]
  cases bindings.resolveAttribute look with
  | error refusal => trivial
  | ok native =>
      apply ends_answered .nil
      intro _ terminal log applied
      exact ⟨_, applied, .changeAttribute⟩

end Machine

namespace Bindings

def Alike (before after : Bindings) : Prop :=
  after.colors = before.colors ∧ after.records = before.records

theorem alike_setWindow {name : String} {after : Bindings}
    (moved : bindings.setWindow name = .ok after) : bindings.Alike after := by
  have records : after.records = bindings.records := by
    rw [records, toList_setWindow moved, records]
  refine ⟨?_, records⟩
  unfold setWindow at moved
  split at moved
  · cases moved
    rfl
  · cases moved

theorem alike_modifyWindow (bindings : Bindings) (change : Window → Window)
    (named : ∀ window, (change window).name = window.name) :
    bindings.Alike (bindings.modifyWindow change) := by
  refine ⟨rfl, ?_⟩
  simp [records, modifyWindow, Focus.modify, Focus.toList, BoundWindow.record, named]

end Bindings

theorem Action.Binds.alike {action : Action} {after : Bindings}
    (binds : action.Binds bindings after)
    (noWindow : ∀ name position size border, action ≠ .addWindow name position size border)
    (noColor : ∀ name foreground background, action ≠ .addColor name foreground background) :
    bindings.Alike after := by
  cases binds with
  | addWindow name position size border => exact absurd rfl (noWindow name position size border)
  | addColor name foreground background => exact absurd rfl (noColor name foreground background)
  | setWindow moved => exact Bindings.alike_setWindow moved
  | unsetWindow moved => exact Bindings.alike_setWindow moved
  | setKeypad on => exact Bindings.alike_modifyWindow bindings _ fun _ => rfl
  | setNoDelay on => exact Bindings.alike_modifyWindow bindings _ fun _ => rfl
  | other => exact ⟨rfl, rfl⟩

namespace Machine

open Exchange

/-- All other actions leave colors, windows and borders alone. -/
theorem perform_alike (session : Session) {action : Action}
    (noWindow : ∀ name position size border, action ≠ .addWindow name position size border)
    (noColor : ∀ name foreground background, action ≠ .addColor name foreground background) :
    Ends (perform session bindings action) host (fun result _ => bindings.Alike result.2)
      (fun _ _ => True) := by
  apply (perform_binds session bindings action).mono
  · intro result _ binds
    exact binds.alike noWindow noColor
  · intros
    trivial

theorem other_completes (session : Session) {action : Action}
    (noWindow : ∀ name position size border, action ≠ .addWindow name position size border)
    (noColor : ∀ name foreground background, action ≠ .addColor name foreground background)
    (noLook : ∀ operation look, action ≠ .changeAttribute operation look) :
    Ends (perform session bindings action) host
      (fun result stop => ∃ made, Asks host.terminal made stop.terminal ∧
        Completes bindings action made result.2)
      (fun _ _ => True) := by
  have alike : Ends (perform session bindings action) host
      (fun result _ => bindings.Alike result.2) (fun _ _ => True) :=
    perform_alike session noWindow noColor
  apply (alike.and (perform_asksOnly session bindings action host)).mono
  · rintro result stop ⟨same, made, asks, _⟩
    exact ⟨made, asks, .other noWindow noColor noLook same.1 same.2⟩
  · intros
    trivial

/-- An action that succeeds does what it is meant to do. Of a new color that could not be had it is
known how far it came. -/
theorem perform_completes (session : Session) (bindings : Bindings) (action : Action) :
    Ends (perform session bindings action) host
      (fun result stop => ∃ made, Asks host.terminal made stop.terminal ∧
        Completes bindings action made result.2)
      (fun _ stop => ∀ name foreground background,
        action = .addColor name foreground background →
          ∃ made, Asks host.terminal made stop.terminal ∧
            ColorFailed bindings foreground background made) := by
  have uncolored : (∀ name foreground background, action ≠ .addColor name foreground background) →
      Ends (perform session bindings action) host
        (fun result stop => ∃ made, Asks host.terminal made stop.terminal ∧
          Completes bindings action made result.2) (fun _ _ => True) →
      Ends (perform session bindings action) host
        (fun result stop => ∃ made, Asks host.terminal made stop.terminal ∧
          Completes bindings action made result.2)
        (fun _ stop => ∀ name foreground background,
          action = .addColor name foreground background →
            ∃ made, Asks host.terminal made stop.terminal ∧
              ColorFailed bindings foreground background made) := by
    intro noColor completes
    apply completes.mono
    · intro _ _ completed
      exact completed
    · intro _ _ _ name foreground background same
      exact absurd same (noColor name foreground background)
  cases action with
  | addColor name foreground background =>
      apply (addColor_completes session name foreground background).mono
      · intro _ _ completed
        exact completed
      · rintro _ stop failed _ _ _ ⟨⟩
        exact failed
  | addWindow name position size border =>
      exact uncolored (by simp) (addWindow_completes session name position size border)
  | changeAttribute operation look =>
      exact uncolored (by simp) (changeAttribute_completes session operation look)
  | _ => exact uncolored (by simp) (other_completes session (by simp) (by simp) (by simp))

end Machine

end

end TerminalSession
