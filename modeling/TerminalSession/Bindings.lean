import TerminalSession.Listing
import TerminalSession.Session
import TerminalSession.Terminal

/-! # What the names of a session stand for

While a session runs, each of its windows is bound to a native window and each of its colors to a
pair. The bindings list windows and colors in the same order as the session itself, so the two can
be compared member by member. Of several registrations of a color the latest counts. -/

namespace TerminalSession

structure BoundWindow where
  window : Window
  border : Option ResolvedBorder
  handle : Handle
deriving DecidableEq, Repr

structure Bindings where
  windows : Focus BoundWindow
  colors : List (String × ColorPair)
  keys : KeyTable
deriving DecidableEq, Repr

namespace Bindings

def fresh (screen : Handle) (keys : KeyTable) : Bindings where
  windows := .single { window := { name := Window.defaultName }, border := none, handle := screen }
  colors := []
  keys

def current (bindings : Bindings) : BoundWindow := bindings.windows.current

def handle (bindings : Bindings) : Handle := bindings.current.handle

def findWindow (bindings : Bindings) (name : String) : Option Nat :=
  bindings.windows.find? (·.window.name = name)

def colorPair (bindings : Bindings) (name : String) : Option ColorPair :=
  bindings.colors.lookup name

def addWindow (bindings : Bindings) (name : String) (border : Option ResolvedBorder)
    (handle : Handle) : Bindings :=
  { bindings with windows := bindings.windows.push { window := { name }, border, handle } }

def setWindow (bindings : Bindings) (name : String) : Except Refusal Bindings :=
  match bindings.windows.select? (·.window.name = name) with
  | some windows => .ok { bindings with windows }
  | none => .error (.unknownWindow name)

def unsetWindow (bindings : Bindings) : Except Refusal Bindings :=
  bindings.setWindow Window.defaultName

def addColor (bindings : Bindings) (name : String) (pair : ColorPair) : Bindings :=
  { bindings with colors := (name, pair) :: bindings.colors }

def modifyWindow (bindings : Bindings) (change : Window → Window) : Bindings :=
  { bindings with
    windows := bindings.windows.modify fun bound => { bound with window := change bound.window } }

def setKeypad (bindings : Bindings) (on : Bool) : Bindings :=
  bindings.modifyWindow ({ · with keypad := on })

def setNoDelay (bindings : Bindings) (on : Bool) : Bindings :=
  bindings.modifyWindow ({ · with noDelay := on })

def resolveColor (bindings : Bindings) (color : RegisteredColor) : Except Refusal ColorPair :=
  match bindings.colorPair color.name with
  | some pair => .ok pair
  | none => .error (.unknownColor color.name)

def resolveAttribute (bindings : Bindings) (look : Attribute) : Except Refusal NativeAttribute :=
  match look with
  | .color color => (bindings.resolveColor color).map .pair
  | look =>
      match look.style? with
      | some style => .ok (.style style)
      | none => .ok (.pair .default)

def resolveBorder (bindings : Bindings) (border : Border) : Except Refusal ResolvedBorder :=
  match border.color with
  | none => .ok { glyphs := border.glyphs, pair := none }
  | some color =>
      (bindings.resolveColor color).map fun pair => { glyphs := border.glyphs, pair := some pair }

/-- The same windows in the same order with the same flags, the same current window, and the same
names of colors. -/
def isConsistentWith (bindings : Bindings) (session : Session) : Bool :=
  bindings.windows.map (·.window) = session.windows &&
    bindings.colors.map Prod.fst = session.colors

end Bindings

end TerminalSession
