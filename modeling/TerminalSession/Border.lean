import TerminalSession.Style

/-! # Borders

A border is drawn with eight glyphs, listed sides first and then corners. Four sets of them have
names. A session gives the color of a border by name, a terminal by its pair; without a pair the
border takes the colors of its window. -/

namespace TerminalSession

structure BorderGlyphs where
  left : Char
  right : Char
  top : Char
  bottom : Char
  topLeft : Char
  topRight : Char
  bottomLeft : Char
  bottomRight : Char
deriving DecidableEq, Repr

namespace BorderGlyphs

def single : BorderGlyphs where
  left := '│'
  right := '│'
  top := '─'
  bottom := '─'
  topLeft := '┌'
  topRight := '┐'
  bottomLeft := '└'
  bottomRight := '┘'

def double : BorderGlyphs where
  left := '║'
  right := '║'
  top := '═'
  bottom := '═'
  topLeft := '╔'
  topRight := '╗'
  bottomLeft := '╚'
  bottomRight := '╝'

def rounded : BorderGlyphs :=
  { single with
    topLeft := '╭'
    topRight := '╮'
    bottomLeft := '╰'
    bottomRight := '╯' }

def ascii : BorderGlyphs where
  left := '|'
  right := '|'
  top := '-'
  bottom := '-'
  topLeft := '+'
  topRight := '+'
  bottomLeft := '+'
  bottomRight := '+'

instance : Inhabited BorderGlyphs := ⟨single⟩

/-- The glyphs a configuration means, in any mix of capital and small letters. A name that is not
known means single lines. No letter outside ASCII has a small form that occurs in these names, so
lowering the ASCII letters is enough. -/
def ofName (name : String) : BorderGlyphs :=
  match name.map Char.toLower with
  | "double" => double
  | "rounded" | "round" => rounded
  | "ascii" | "plain" => ascii
  | _ => single

def names : List String := ["single", "double", "rounded", "ascii"]

def toList (glyphs : BorderGlyphs) : List Char :=
  [glyphs.left, glyphs.right, glyphs.top, glyphs.bottom,
    glyphs.topLeft, glyphs.topRight, glyphs.bottomLeft, glyphs.bottomRight]

def ofList? : List Char → Option BorderGlyphs
  | [left, right, top, bottom, topLeft, topRight, bottomLeft, bottomRight] =>
      some { left, right, top, bottom, topLeft, topRight, bottomLeft, bottomRight }
  | _ => none

theorem ofList?_toList (glyphs : BorderGlyphs) : ofList? glyphs.toList = some glyphs := rfl

end BorderGlyphs

structure Border where
  glyphs : BorderGlyphs
  color : Option RegisteredColor := none
deriving DecidableEq, Repr

structure ResolvedBorder where
  glyphs : BorderGlyphs
  pair : Option ColorPair
deriving DecidableEq, Repr

end TerminalSession
