import TerminalSession.Terminal

/-! # Native windows

A pane is a rectangle of the screen with a cursor, a rendition and the two flags of its input. The
cursor is counted from the origin of the pane. Panes are numbered in the order they are made; the
number of a pane that is gone is not used again. -/

namespace TerminalSession

structure Pane where
  origin : Position
  size : Size
  cursor : Position := .origin
  rendition : Rendition := {}
  keypad : Bool := false
  noDelay : Bool := false
deriving DecidableEq, Repr, Inhabited

namespace Pane

def toScreen (pane : Pane) (position : Position) : Position :=
  ⟨pane.origin.row.shift position.row, pane.origin.col.shift position.col⟩

/-- Where the line below the given row starts. Below the last row there is the last row again. -/
def lineBelow (pane : Pane) (row : Coordinate) : Position :=
  ⟨(row.ahead 1).least pane.size.rows.last, 0⟩

end Pane

/-! Panes that are gone leave their place empty, and handle zero is the full screen. -/

structure Panes where
  slots : Array (Option Pane)
deriving DecidableEq, Repr, Inhabited

namespace Panes

def empty : Panes := ⟨#[]⟩

def ofScreen (size : Size) : Panes := ⟨#[some { origin := .origin, size }]⟩

def next (panes : Panes) : Handle := panes.slots.size

def add (panes : Panes) (pane : Pane) : Panes := ⟨panes.slots.push (some pane)⟩

def get? (panes : Panes) (handle : Handle) : Option Pane := panes.slots[handle]?.join

def set (panes : Panes) (handle : Handle) (pane : Pane) : Panes :=
  ⟨panes.slots.setIfInBounds handle (some pane)⟩

def remove (panes : Panes) (handle : Handle) : Panes :=
  ⟨panes.slots.setIfInBounds handle none⟩

def live (panes : Panes) : List (Handle × Pane) :=
  panes.slots.toList.zipIdx.filterMap fun (slot, handle) => slot.map (handle, ·)

theorem get?_add (panes : Panes) (pane : Pane) (handle : Handle) :
    (panes.add pane).get? handle =
      if handle = panes.next then some pane else panes.get? handle := by
  simp only [add, get?, next, Array.getElem?_push]
  by_cases same : handle = panes.slots.size <;> simp [same]

theorem get?_set {panes : Panes} {handle : Handle} {old : Pane}
    (found : panes.get? handle = some old) (pane : Pane) (other : Handle) :
    (panes.set handle pane).get? other =
      if other = handle then some pane else panes.get? other := by
  have bound : handle < panes.slots.size := by
    apply Classical.byContradiction
    intro outside
    simp [get?, Array.getElem?_eq_none (Nat.le_of_not_lt outside)] at found
  simp only [set, get?, Array.getElem?_setIfInBounds]
  by_cases same : handle = other
  · subst same
    simp [bound]
  · simp [same, Ne.symm same]

theorem get?_set_of_ne (panes : Panes) {handle other : Handle} (different : other ≠ handle)
    (pane : Pane) : (panes.set handle pane).get? other = panes.get? other := by
  simp only [set, get?, Array.getElem?_setIfInBounds, if_neg different.symm]

theorem get?_remove (panes : Panes) (handle other : Handle) :
    (panes.remove handle).get? other =
      if other = handle then none else panes.get? other := by
  simp only [remove, get?, Array.getElem?_setIfInBounds]
  by_cases same : handle = other
  · subst same
    by_cases bound : handle < panes.slots.size <;> simp [bound]
  · simp [same, Ne.symm same]

end Panes

end TerminalSession
