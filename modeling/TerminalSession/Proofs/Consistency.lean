import TerminalSession.Bindings
import TerminalSession.Proofs.Transition

/-! # Bindings that fit a session

A session and its bindings are changed by separate code. Here each change of the one is set beside
the change of the other: bindings that fit the session before fit the session after. What the
session has is also bound to something, so a command that passed its checks finds what it names. -/

namespace TerminalSession

namespace Focus

theorem ofList?_map {α β : Type} (transform : α → β) (wanted : β → Bool) (members : List α) :
    ofList? wanted (members.map transform) =
      (ofList? (fun member => wanted (transform member)) members).map (map transform) := by
  induction members with
  | nil => rfl
  | cons member rest induction =>
      rw [List.map_cons, ofList?, ofList?, induction]
      split
      · rfl
      · rw [Option.map_map, Option.map_map]
        rfl

theorem select?_map {α β : Type} (transform : α → β) (wanted : β → Bool) (focus : Focus α) :
    (focus.map transform).select? wanted =
      (focus.select? fun member => wanted (transform member)).map (map transform) := by
  rw [select?, toList_map, ofList?_map, select?]

end Focus

namespace Bindings

/-! ## Changes of the bindings -/

variable {bindings : Bindings} {session next : Session}

theorem isConsistentWith_iff :
    bindings.isConsistentWith session = true ↔
      bindings.windows.map (·.window) = session.windows ∧
        bindings.colors.map Prod.fst = session.colors := by
  simp [isConsistentWith]

theorem current_window_eq (consistent : bindings.isConsistentWith session = true) :
    bindings.current.window = session.currentWindow := by
  rw [Session.currentWindow, ← (isConsistentWith_iff.mp consistent).1]
  rfl

theorem fresh_consistent (screen : Handle) (keys : KeyTable) (options : SessionOptions) :
    (fresh screen keys).isConsistentWith (.fresh options) = true :=
  isConsistentWith_iff.mpr ⟨rfl, rfl⟩

theorem addWindow_consistent (consistent : bindings.isConsistentWith session = true)
    {name : String} (added : session.addWindow name = .ok next)
    (border : Option ResolvedBorder) (handle : Handle) :
    (bindings.addWindow name border handle).isConsistentWith next = true := by
  rcases isConsistentWith_iff.mp consistent with ⟨windows, colors⟩
  cases Session.addWindow_eq_ok added
  refine isConsistentWith_iff.mpr ⟨?_, colors⟩
  rw [addWindow, Focus.map_push, windows]

theorem setWindow_consistent (consistent : bindings.isConsistentWith session = true)
    {name : String} (moved : session.setWindow name = .ok next) :
    ∃ after, bindings.setWindow name = .ok after ∧ after.isConsistentWith next = true := by
  rcases isConsistentWith_iff.mp consistent with ⟨windows, colors⟩
  rcases Session.setWindow_eq_ok moved with ⟨focus, found, rfl⟩
  rw [← windows, Focus.select?_map] at found
  rcases Option.map_eq_some_iff.mp found with ⟨boundFocus, boundFound, rfl⟩
  refine ⟨{ bindings with windows := boundFocus }, ?_, isConsistentWith_iff.mpr ⟨rfl, colors⟩⟩
  simp only [setWindow, boundFound]

theorem addColor_consistent (consistent : bindings.isConsistentWith session = true)
    {name : String} (added : session.addColor name = .ok next) (pair : ColorPair) :
    (bindings.addColor name pair).isConsistentWith next = true := by
  rcases isConsistentWith_iff.mp consistent with ⟨windows, colors⟩
  cases Session.addColor_eq_ok added
  refine isConsistentWith_iff.mpr ⟨windows, ?_⟩
  rw [addColor, List.map_cons, colors]

theorem setKeypad_consistent (consistent : bindings.isConsistentWith session = true) (on : Bool) :
    (bindings.setKeypad on).isConsistentWith (session.setKeypad on) = true := by
  rcases isConsistentWith_iff.mp consistent with ⟨windows, colors⟩
  refine isConsistentWith_iff.mpr ⟨?_, colors⟩
  rw [Session.setKeypad, ← windows]
  rfl

theorem setNoDelay_consistent (consistent : bindings.isConsistentWith session = true)
    (on : Bool) : (bindings.setNoDelay on).isConsistentWith (session.setNoDelay on) = true := by
  rcases isConsistentWith_iff.mp consistent with ⟨windows, colors⟩
  refine isConsistentWith_iff.mpr ⟨?_, colors⟩
  rw [Session.setNoDelay, ← windows]
  rfl

/-! ## Colors a session has -/

theorem lookup_eq_find? (colors : List (String × ColorPair)) (name : String) :
    colors.lookup name = (colors.find? (·.1 = name)).map Prod.snd := by
  induction colors with
  | nil => rfl
  | cons entry rest induction =>
      rw [List.lookup_cons, List.find?_cons]
      by_cases same : entry.1 = name
      · simp [same]
      · have different : (name == entry.1) = false := by simpa using Ne.symm same
        simp [same, different, induction]

theorem colorPair_of_hasColor (consistent : bindings.isConsistentWith session = true)
    {name : String} (registered : session.hasColor name = true) :
    ∃ pair, bindings.colorPair name = some pair := by
  rcases isConsistentWith_iff.mp consistent with ⟨windows, colors⟩
  rw [Session.hasColor, ← colors, List.contains_iff_mem] at registered
  rcases List.mem_map.mp registered with ⟨entry, member, equal⟩
  rw [colorPair]
  cases found : bindings.colors.lookup name with
  | some pair => exact ⟨pair, rfl⟩
  | none =>
      have different := List.lookup_eq_none_iff.mp found entry member
      simp [equal] at different

theorem resolveColor_of_hasColor (consistent : bindings.isConsistentWith session = true)
    {color : RegisteredColor} (registered : session.hasColor color.name = true) :
    ∃ pair, bindings.resolveColor color = .ok pair := by
  rcases colorPair_of_hasColor consistent registered with ⟨pair, found⟩
  refine ⟨pair, ?_⟩
  rw [resolveColor, found]

theorem hasColor_of_check {color : RegisteredColor}
    (checked : Requirement.checkActive (.colorExists color.name) session = .ok ()) :
    session.hasColor color.name = true := by
  rw [Requirement.checkActive, Session.color] at checked
  split at checked
  · assumption
  · cases checked

theorem resolveAttribute_of_met (consistent : bindings.isConsistentWith session = true)
    {operation : AttributeOperation} {look : Attribute}
    (met : (Action.changeAttribute operation look).Met session) :
    ∃ native, bindings.resolveAttribute look = .ok native := by
  cases look with
  | normal => exact ⟨_, rfl⟩
  | flag flag => exact ⟨_, rfl⟩
  | defaultColors => exact ⟨_, rfl⟩
  | color color =>
      have checked := met (.colorExists color.name) (List.mem_singleton.mpr rfl)
      have registered := hasColor_of_check checked
      rcases resolveColor_of_hasColor consistent registered with ⟨pair, resolved⟩
      refine ⟨.pair pair, ?_⟩
      rw [resolveAttribute, resolved]
      rfl

theorem resolveBorder_of_met (consistent : bindings.isConsistentWith session = true)
    {name : String} {position : Position} {size : Size} {border : Border}
    (met : (Action.addWindow name position size (some border)).Met session) :
    ∃ resolved, bindings.resolveBorder border = .ok resolved := by
  rcases border with ⟨glyphs, color⟩
  cases color with
  | none => exact ⟨_, rfl⟩
  | some color =>
      have registered := hasColor_of_check (met (.colorExists color.name) (by
        simp [Action.requirements, Border.requirements]))
      rcases resolveColor_of_hasColor consistent registered with ⟨pair, resolved⟩
      refine ⟨⟨glyphs, some pair⟩, ?_⟩
      simp [resolveBorder, resolved, Except.map]

end Bindings

end TerminalSession
