import TerminalSession.Border
import TerminalSession.Session
import TerminalSession.Toml.Document

/-! # Settings

What a user decides beforehand. Settings are kept in a file of three groups. Each group and each
setting in it may be missing; what is missing has its default, and names that are not known are
passed over. A known name with a value of the wrong kind makes the file invalid. -/

namespace TerminalSession

structure Settings where
  uniqueNames : Bool := false
  cursor : CursorVisibility := .normal
  borderStyle : String := "single"
  logLevel : String := "info"
deriving DecidableEq, Repr, Inhabited

/-! ## Reading values -/

def Color.ofData? (dialect : Data.Dialect) (data : Data) : Option Color :=
  (data.choice? dialect).bind ofName?

def CursorVisibility.ofData? (dialect : Data.Dialect) (data : Data) : Option CursorVisibility :=
  (data.choice? dialect).bind ofName?

def BorderGlyphs.fieldNames : List String :=
  ["left", "right", "top", "bottom", "top_left", "top_right", "bottom_left", "bottom_right"]

def BorderGlyphs.ofData? (dialect : Data.Dialect) (data : Data) : Option BorderGlyphs := do
  let field ← data.fields? dialect fieldNames
  ofList? (← fieldNames.mapM fun name => (field name).bind Data.char?)

namespace Settings

def readSession (dialect : Data.Dialect) (data : Data) : Option (Bool × CursorVisibility) := do
  let field ← data.fields? dialect ["unique_names", "cursor"]
  let uniqueNames ← Data.orElse false Data.bool? (field "unique_names")
  let cursor ← Data.orElse .normal (CursorVisibility.ofData? dialect) (field "cursor")
  return (uniqueNames, cursor)

def readText (dialect : Data.Dialect) (name missing : String) (data : Data) : Option String := do
  let field ← data.fields? dialect [name]
  Data.orElse missing Data.text? (field name)

def ofData? (dialect : Data.Dialect) (data : Data) : Option Settings := do
  let field ← data.fields? dialect ["session", "border", "log"]
  let (uniqueNames, cursor) ← Data.orElse (false, .normal) (readSession dialect) (field "session")
  let borderStyle ← Data.orElse "single" (readText dialect "style" "single") (field "border")
  let logLevel ← Data.orElse "info" (readText dialect "level" "info") (field "log")
  return { uniqueNames, cursor, borderStyle, logLevel }

def parse (text : String) : Option Settings := do
  ofData? .configuration (← Toml.parse text)

/-! ## Writing -/

def groups (settings : Settings) : List Toml.Group :=
  [⟨"session",
      [("unique_names", .bool settings.uniqueNames), ("cursor", .text settings.cursor.name)]⟩,
    ⟨"border", [("style", .text settings.borderStyle)]⟩,
    ⟨"log", [("level", .text settings.logLevel)]⟩]

def render (settings : Settings) : String := Toml.write settings.groups

/-! ## What settings mean -/

def options (settings : Settings) : SessionOptions :=
  if settings.uniqueNames then ⟨.unique⟩ else ⟨.permissive⟩

def glyphs (settings : Settings) : BorderGlyphs := .ofName settings.borderStyle

end Settings

end TerminalSession
