import TerminalSession.Text.Printable

/-! # Quoted text

Text in listings and logs stands between quotes, so that its end and its invisible characters can
be seen. A character that does not show, or that would join the one before it, is written by its
number in hexadecimal digits. -/

namespace TerminalSession.Text

def apostrophe : Char := Char.ofNat 39

def hexadecimal (number : Nat) : String := String.ofList (Nat.toDigits 16 number)

/-- A character between two signs of `enclosing`: that sign is escaped, the other one is not. -/
def escape (enclosing character : Char) : String :=
  match character.toNat with
  | 0x00 => "\\0"
  | 0x09 => "\\t"
  | 0x0A => "\\n"
  | 0x0D => "\\r"
  | 0x5C => "\\\\"
  | _ =>
    if character = enclosing then
      "\\" ++ character.toString
    else if isExtending character || !isPrintable character then
      "\\u\x7b" ++ hexadecimal character.toNat ++ "\x7d"
    else
      character.toString

def quotedChar (character : Char) : String :=
  apostrophe.toString ++ escape apostrophe character ++ apostrophe.toString

def quoted (text : String) : String :=
  "\"" ++ String.join (text.toList.map (escape '"')) ++ "\""

example : quoted "a\"b'\n" = "\"a\\\"b'\\n\"" := by decide +kernel

/-! Listings write a value as its kind, followed by its parts in brackets. -/

def tagged (kind : String) (parts : List String) : String :=
  kind ++ "(" ++ ", ".intercalate parts ++ ")"

def labelled (kind : String) (parts : List (String × String)) : String :=
  let listed := parts.map fun (name, part) => name ++ ": " ++ part
  kind ++ " \x7b " ++ ", ".intercalate listed ++ " \x7d"

def optional (part : Option String) : String :=
  match part with
  | none => "None"
  | some part => tagged "Some" [part]

def replicate (count : Nat) (character : Char) : String :=
  String.ofList (List.replicate count character)

def alignRight (width : Nat) (text : String) : String :=
  replicate (width - text.length) ' ' ++ text

def alignLeft (width : Nat) (text : String) : String :=
  text ++ replicate (width - text.length) ' '

def first (count : Nat) (text : String) : String :=
  String.ofList (text.toList.take count)

end TerminalSession.Text
