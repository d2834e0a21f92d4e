import TerminalSession.Style

/-! # What is written to a screen

A screen is drawn with text and with escape sequences. An instruction is one of either; `text` is
the characters that are sent for it. There is no way to show that text is guarded. -/

namespace TerminalSession.Screen

inductive Graphic where
  | bold | dim | underline | blink | reverse | hidden
deriving DecidableEq, Repr

def Graphic.number : Graphic → Nat
  | bold => 1
  | dim => 2
  | underline => 4
  | blink => 5
  | reverse => 7
  | hidden => 8

def Graphic.ofFlag? : StyleFlag → Option Graphic
  | .underline => some underline
  | .standout => some reverse
  | .reverse => some reverse
  | .blink => some blink
  | .dim => some dim
  | .bold => some bold
  | .guarded => none
  | .hidden => some hidden

inductive Instruction where
  | resetAttributes
  | resetColors
  | foreground (color : Color)
  | background (color : Color)
  | graphic (graphic : Graphic)
  | moveTo (position : Position)
  | print (text : String)
  | showCursor
  | hideCursor
  | defaultCursorShape
  | blockCursorShape
  | clearAll
  | enterAlternateScreen
  | leaveAlternateScreen
deriving DecidableEq, Repr

namespace Instruction

def introducer : String := String.ofList [Char.ofNat 0x1B, '[']

/-- The characters that are sent. The screen counts rows and columns from one, so the last row and
the last column that there are coordinates for are told as zero. -/
def text : Instruction → String
  | resetAttributes => introducer ++ "0m"
  | resetColors => introducer ++ "0m"
  | foreground color => introducer ++ "38;5;" ++ toString color.index ++ "m"
  | background color => introducer ++ "48;5;" ++ toString color.index ++ "m"
  | graphic mode => introducer ++ toString mode.number ++ "m"
  | moveTo position =>
      introducer ++ toString (position.row.ahead 1).toNat ++ ";" ++
        toString (position.col.ahead 1).toNat ++ "H"
  | print text => text
  | showCursor => introducer ++ "?25h"
  | hideCursor => introducer ++ "?25l"
  | defaultCursorShape => introducer ++ "0 q"
  | blockCursorShape => introducer ++ "2 q"
  | clearAll => introducer ++ "2J"
  | enterAlternateScreen => introducer ++ "?1049h"
  | leaveAlternateScreen => introducer ++ "?1049l"

end Instruction

/-- How the screen shows what is printed next: everything is reset, then the colors are chosen and
the flags switched on. A pair that was never allocated means the screen's own colors. -/
def renditionInstructions (pairs : Array (Color × Color)) (rendition : Rendition) :
    List Instruction :=
  let colors :=
    if rendition.pair = 0 then []
    else
      match pairs[rendition.pair - 1]? with
      | some (foreground, background) => [.foreground foreground, .background background]
      | none => []
  let graphics := rendition.style.flags.filterMap fun flag =>
    (Graphic.ofFlag? flag).map Instruction.graphic
  [.resetAttributes, .resetColors] ++ colors ++ graphics

end TerminalSession.Screen
