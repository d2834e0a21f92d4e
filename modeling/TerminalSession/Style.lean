import TerminalSession.Geometry

/-! # Colors, text styles and attributes

A session names its colors; a terminal numbers pairs of them, one for the foreground and one for the
background. An `Attribute` speaks of names, a `NativeAttribute` of numbers, and `Rendition` is how a
native window shows the text that is written to it next. Where a type has both, `name` is what a
configuration writes and `label` what listings and logs show. -/

namespace TerminalSession

inductive Color where
  | black | red | green | yellow | blue | magenta | cyan | white
deriving DecidableEq, Repr, Inhabited

namespace Color

def all : List Color := [black, red, green, yellow, blue, magenta, cyan, white]

def index : Color → Nat
  | black => 0
  | red => 1
  | green => 2
  | yellow => 3
  | blue => 4
  | magenta => 5
  | cyan => 6
  | white => 7

def name : Color → String
  | black => "black"
  | red => "red"
  | green => "green"
  | yellow => "yellow"
  | blue => "blue"
  | magenta => "magenta"
  | cyan => "cyan"
  | white => "white"

def ofName? (name : String) : Option Color := all.find? (·.name = name)

def label : Color → String
  | black => "Black"
  | red => "Red"
  | green => "Green"
  | yellow => "Yellow"
  | blue => "Blue"
  | magenta => "Magenta"
  | cyan => "Cyan"
  | white => "White"

/-- The name in a sixteen-color palette. The eight colors are its dim half, where the dimmest is
plain black and the brightest is grey. -/
def paletteName : Color → String
  | black => "Black"
  | white => "Grey"
  | color => "Dark" ++ color.label

theorem index_lt (color : Color) : color.index < 8 := by cases color <;> decide

theorem ofName?_name (color : Color) : ofName? color.name = some color := by
  cases color <;> decide

end Color

/-! Pair zero stands for the colors the terminal started with. -/

abbrev ColorPair := Nat

def ColorPair.default : ColorPair := 0

inductive CursorVisibility where
  | invisible | normal | highlyVisible
deriving DecidableEq, Repr

namespace CursorVisibility

instance : Inhabited CursorVisibility := ⟨normal⟩

def all : List CursorVisibility := [invisible, normal, highlyVisible]

def name : CursorVisibility → String
  | invisible => "invisible"
  | normal => "normal"
  | highlyVisible => "highly-visible"

def ofName? (name : String) : Option CursorVisibility := all.find? (·.name = name)

def label : CursorVisibility → String
  | invisible => "Invisible"
  | normal => "Normal"
  | highlyVisible => "HighlyVisible"

theorem ofName?_name (visibility : CursorVisibility) :
    ofName? visibility.name = some visibility := by
  cases visibility <;> decide

end CursorVisibility

/-! A text style switches eight properties on and off independently. The flags are listed from the
lowest bit of the style's number to the highest; bits beyond the eight say nothing. -/

inductive StyleFlag where
  | underline | standout | reverse | blink | dim | bold | guarded | hidden
deriving DecidableEq, Repr

namespace StyleFlag

def all : List StyleFlag := [underline, standout, reverse, blink, dim, bold, guarded, hidden]

def label : StyleFlag → String
  | underline => "UNDERLINE"
  | standout => "STANDOUT"
  | reverse => "REVERSE"
  | blink => "BLINK"
  | dim => "DIM"
  | bold => "BOLD"
  | guarded => "PROTECTED"
  | hidden => "INVISIBLE"

end StyleFlag

structure TextStyle where
  underline : Bool := false
  standout : Bool := false
  reverse : Bool := false
  blink : Bool := false
  dim : Bool := false
  bold : Bool := false
  guarded : Bool := false
  hidden : Bool := false
deriving DecidableEq, Repr

namespace TextStyle

def plain : TextStyle := {}

instance : Inhabited TextStyle := ⟨plain⟩

def has (style : TextStyle) : StyleFlag → Bool
  | .underline => style.underline
  | .standout => style.standout
  | .reverse => style.reverse
  | .blink => style.blink
  | .dim => style.dim
  | .bold => style.bold
  | .guarded => style.guarded
  | .hidden => style.hidden

def ofFlags (keep : StyleFlag → Bool) : TextStyle where
  underline := keep .underline
  standout := keep .standout
  reverse := keep .reverse
  blink := keep .blink
  dim := keep .dim
  bold := keep .bold
  guarded := keep .guarded
  hidden := keep .hidden

@[simp] theorem has_ofFlags (keep : StyleFlag → Bool) (flag : StyleFlag) :
    (ofFlags keep).has flag = keep flag := by
  cases flag <;> rfl

def single (flag : StyleFlag) : TextStyle := ofFlags (· = flag)

def union (first second : TextStyle) : TextStyle :=
  ofFlags fun flag => first.has flag || second.has flag

def without (style removed : TextStyle) : TextStyle :=
  ofFlags fun flag => style.has flag && !removed.has flag

def flags (style : TextStyle) : List StyleFlag := StyleFlag.all.filter style.has

def bits (style : TextStyle) : Nat :=
  StyleFlag.all.foldr (fun flag higher => (if style.has flag then 1 else 0) + 2 * higher) 0

def ofBits (bits : Nat) : TextStyle :=
  ofFlags fun flag => bits.testBit (StyleFlag.all.idxOf flag)

end TextStyle

inductive NativeAttribute where
  | style (style : TextStyle)
  | pair (pair : ColorPair)
deriving DecidableEq, Repr

inductive AttributeOperation where
  | set | enable | disable
deriving DecidableEq, Repr

def AttributeOperation.label : AttributeOperation → String
  | .set => "Set"
  | .enable => "Enable"
  | .disable => "Disable"

structure Rendition where
  style : TextStyle := .plain
  pair : ColorPair := .default
deriving DecidableEq, Repr, Inhabited

/-- Setting one half resets the other; enabling and disabling leave the other half alone. Disabling
a pair that is not the one in use changes nothing. -/
def Rendition.apply (rendition : Rendition) :
    NativeAttribute → AttributeOperation → Rendition
  | .style style, .set => { style, pair := .default }
  | .style style, .enable => { rendition with style := rendition.style.union style }
  | .style style, .disable => { rendition with style := rendition.style.without style }
  | .pair pair, .set => { style := .plain, pair }
  | .pair pair, .enable => { rendition with pair }
  | .pair pair, .disable =>
      if rendition.pair = pair then { rendition with pair := .default } else rendition

/-! A registered color is a name that some session has taken up. Each use is checked against the
session at hand, because the name may come from another one. -/

structure RegisteredColor where
  name : String
deriving DecidableEq, Repr, Inhabited

inductive Attribute where
  | normal
  | flag (flag : StyleFlag)
  | defaultColors
  | color (color : RegisteredColor)
deriving DecidableEq, Repr

def Attribute.style? : Attribute → Option TextStyle
  | .normal => some .plain
  | .flag property => some (.single property)
  | .defaultColors | .color _ => none

end TerminalSession
