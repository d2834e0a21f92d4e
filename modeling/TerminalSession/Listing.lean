import TerminalSession.Border
import TerminalSession.Input
import TerminalSession.Text.Quoted

/-! # How values are listed

The texts that stand for values in listings, in logs and in messages about commands. -/

namespace TerminalSession

open Text (tagged labelled optional quoted quotedChar)

def Position.text (position : Position) : String :=
  labelled "Position" [("row", toString position.row), ("col", toString position.col)]

def Size.text (size : Size) : String :=
  labelled "Size" [("rows", toString size.rows), ("cols", toString size.cols)]

def TextStyle.text (style : TextStyle) : String :=
  tagged "AttrFlags"
    [match style.flags with
    | [] => "0x0"
    | flags => " | ".intercalate (flags.map (·.label))]

def ColorPair.text (pair : ColorPair) : String := tagged "ColorPair" [toString pair]

def NativeAttribute.text : NativeAttribute → String
  | .style flags => tagged "Style" [flags.text]
  | .pair number => tagged "Pair" [ColorPair.text number]

def StyleFlag.attributeLabel : StyleFlag → String
  | .underline => "Underline"
  | .standout => "Standout"
  | .reverse => "Reverse"
  | .blink => "Blink"
  | .dim => "Dim"
  | .bold => "Bold"
  | .guarded => "Protected"
  | .hidden => "Invisible"

def Attribute.text : Attribute → String
  | .normal => "Normal"
  | .flag property => property.attributeLabel
  | .defaultColors => "DefaultColors"
  | .color registered => tagged "Color" [tagged "RegisteredColor" [quoted registered.name]]

def BorderGlyphs.text (glyphs : BorderGlyphs) : String :=
  labelled "BorderGlyphs"
    [("left", quotedChar glyphs.left), ("right", quotedChar glyphs.right),
      ("top", quotedChar glyphs.top), ("bottom", quotedChar glyphs.bottom),
      ("top_left", quotedChar glyphs.topLeft), ("top_right", quotedChar glyphs.topRight),
      ("bottom_left", quotedChar glyphs.bottomLeft),
      ("bottom_right", quotedChar glyphs.bottomRight)]

def ResolvedBorder.text (border : ResolvedBorder) : String :=
  labelled "ResolvedBorder"
    [("glyphs", border.glyphs.text), ("pair", optional (border.pair.map ColorPair.text))]

def Key.text : Key → String
  | .char character => tagged "Char" [quotedChar character]
  | .special key => tagged "Special" [key.label]

def Input.text : Input → String
  | .char character => tagged "Char" [quotedChar character]
  | .key pressed => tagged "Key" [pressed.text]
  | .maybeChar character => tagged "MaybeChar" [optional (character.map quotedChar)]
  | .maybeKey pressed => tagged "MaybeKey" [optional (pressed.map Key.text)]

end TerminalSession
